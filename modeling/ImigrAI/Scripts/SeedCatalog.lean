import ImigrAI.Scripts.Models

/-!
# Seeding the catalogue

`seed_mvp_catalog` writes the countries of a catalogue with their programs, a draft version of
each program, and its sources, into the registry and as documents of the version.
`seed_default_sources` writes the sources of the same catalogue into the registry only.
Both reach the registry through `upsert_source_seed`.
-/

namespace ImigrAI.Scripts

open Python ImmigrationRules Ingestion Upserts

structure CatalogSource where
  sourceKey : String
  sourceType : SourceType
  sourceUrl : String
  robotsUrl : Option String
  termsUrl : Option String
  scheduleCron : Option String
  documentTitle : String

structure CatalogProgram where
  code : String
  name : String
  description : String
  version : String
  sources : List CatalogSource

structure CatalogCountry where
  code : String
  name : String
  priorityRank : ℤ
  diasporaPopulationEstimate : ℤ
  prioritizationSourceUrl : String
  programs : List CatalogProgram

/-- The lengths that `SourceRegistrySeed` allows. -/
def SourceFields.WithinBounds (fields : SourceFields) : Prop :=
  (3 ≤ fields.sourceKey.length ∧ fields.sourceKey.length ≤ 120) ∧
  fields.countryCode.length = 2 ∧
  (2 ≤ fields.countryName.length ∧ fields.countryName.length ≤ 120) ∧
  (2 ≤ fields.programCode.length ∧ fields.programCode.length ≤ 64) ∧
  (2 ≤ fields.programName.length ∧ fields.programName.length ≤ 160)

instance (fields : SourceFields) : Decidable fields.WithinBounds :=
  inferInstanceAs (Decidable (_ ∧ _ ∧ _ ∧ _ ∧ _))

structure SourceRegistrySeed extends SourceFields where
  withinBounds : toSourceFields.WithinBounds

/-- The constructor of `SourceRegistrySeed`. -/
def SourceFields.validate (fields : SourceFields) : Except SeedError SourceRegistrySeed :=
  if withinBounds : fields.WithinBounds then .ok ⟨fields, withinBounds⟩
  else .error .validationError

/-- The fields of a seed that both seeders take from the catalogue in the same way, and the
defaults of the rest. -/
def sourceFields (source : CatalogSource) (country : CatalogCountry)
    (programCode programName : String) (metadataJson : JsonObject) : SourceFields where
  sourceKey := source.sourceKey
  countryCode := country.code
  countryName := country.name
  programCode := programCode
  programName := programName
  sourceType := source.sourceType
  sourceUrl := source.sourceUrl
  robotsUrl := source.robotsUrl
  termsUrl := source.termsUrl
  scheduleCron := source.scheduleCron
  parserName := "deterministic-v1"
  parserVersion := "1.0.0"
  confidenceThreshold := ⟨false, 80, -2⟩
  metadataJson := metadataJson

variable [ColumnTypes]

def sourceUpsert (seed : SourceRegistrySeed) : Upsert schema .sourceRegistry where
  key := seed.sourceKey
  create new :=
    { seed.toSourceFields, new with
      isActive := true
      quarantineUntil := none
      quarantineReason := none
      consecutiveFailures := 0 }
  values := some seed.toSourceFields
  key_create _ := rfl
  write_create := by
    rintro new _ ⟨⟩
    rfl

def upsertSourceSeed (seed : SourceRegistrySeed) : Script schema UUID :=
  .upsertRow (sourceUpsert seed)

/-- The sources of a catalogue with the program and the country that list them. -/
def listedSources (catalog : List CatalogCountry) :
    List (CatalogCountry × CatalogProgram × CatalogSource) :=
  catalog.flatMap fun country =>
    country.programs.flatMap fun program =>
      program.sources.map fun source => (country, program, source)

def defaultSourceFields (country : CatalogCountry) (program : CatalogProgram)
    (source : CatalogSource) : SourceFields :=
  sourceFields source country program.code program.name ⟨[], Value.wellFormed_emptyDict⟩

def buildDefaultSourceSeeds (catalog : List CatalogCountry) :
    Except SeedError (List SourceRegistrySeed) :=
  (listedSources catalog).mapM fun (country, program, source) =>
    (defaultSourceFields country program source).validate

def seedDefaultSources (catalog : List CatalogCountry) : Script schema Unit := do
  let seeds ← .ofExcept (buildDefaultSourceSeeds catalog)
  seeds.forM fun seed => do
    let _ ← upsertSourceSeed seed

def countryUpsert (country : CatalogCountry) : Upsert schema .countries where
  key := country.code
  create new :=
    { new with
      code := country.code
      name := country.name
      isActive := true
      priorityRank := some country.priorityRank
      diasporaPopulationEstimate := some country.diasporaPopulationEstimate
      prioritizationSourceUrl := some country.prioritizationSourceUrl }
  values := some
    { name := country.name
      priorityRank := country.priorityRank
      diasporaPopulationEstimate := country.diasporaPopulationEstimate
      prioritizationSourceUrl := country.prioritizationSourceUrl }
  key_create _ := rfl
  write_create := by
    rintro new _ ⟨⟩
    rfl

def seedCountry (country : CatalogCountry) : Script schema UUID :=
  .upsertRow (countryUpsert country)

def programUpsert (countryId : UUID) (program : CatalogProgram) : Upsert schema .programs where
  key := (countryId, program.code)
  create new :=
    { new with
      countryId
      code := program.code
      name := program.name
      description := some program.description
      isActive := true }
  values := some { name := program.name, description := program.description }
  key_create _ := rfl
  write_create := by
    rintro new _ ⟨⟩
    rfl

def seedProgram (countryId : UUID) (program : CatalogProgram) : Script schema UUID :=
  .upsertRow (programUpsert countryId program)

def versionUpsert (programId : UUID) (program : CatalogProgram) (effectiveFrom : Instant) :
    Upsert schema .programVersions where
  key := (programId, program.version)
  create new :=
    { new with
      programId
      version := program.version
      status := .draft
      effectiveFrom
      effectiveTo := none }
  values := some effectiveFrom
  key_create _ := rfl
  write_create := by
    rintro new _ ⟨⟩
    rfl

def catalogSourceFields (source : CatalogSource) (country : CatalogCountry) : SourceFields :=
  -- The seeder passes the code and the name of the country for those of the program.
  sourceFields source country country.code country.name
    ⟨[("seed", .str "mvp_2026_02"), ("official_source", .bool true),
      ("priority_rank", .int country.priorityRank)],
      by simp [Value.WellFormed, Value.EntriesWellFormed]⟩

def documentMetadata (source : CatalogSource) (country : CatalogCountry) : JsonObject :=
  ⟨[("seed", .str "mvp_2026_02"), ("source_key", .str source.sourceKey),
    ("country_code", .str country.code), ("program_code", .str country.code),
    ("official_source", .bool true)],
    by simp [Value.WellFormed, Value.EntriesWellFormed]⟩

def documentUpsert (source : CatalogSource) (country : CatalogCountry) (versionId sourceId : UUID) :
    Upsert schema .sourceDocuments where
  key := (some versionId, source.sourceUrl)
  create new :=
    { new with
      sourceId := some sourceId
      ingestionRunItemId := none
      programVersionId := some versionId
      title := source.documentTitle
      sourceUrl := source.sourceUrl
      checksumSha256 := none
      rawStorageUri := none
      publishedAt := none
      metadataJson := documentMetadata source country }
  values := some
    { sourceId
      title := source.documentTitle
      metadataJson := documentMetadata source country }
  key_create _ := rfl
  write_create := by
    rintro new _ ⟨⟩
    rfl

def seedSource (source : CatalogSource) (country : CatalogCountry) (versionId : UUID) :
    Script schema Unit := do
  let sourceSeed ← .ofExcept (catalogSourceFields source country).validate
  let sourceId ← upsertSourceSeed sourceSeed
  let _ ← .upsertRow (documentUpsert source country versionId sourceId)

def seedProgramVersionAndSources (programId : UUID) (country : CatalogCountry)
    (program : CatalogProgram) (effectiveFrom : Instant) : Script schema UUID := do
  let versionId ← .upsertRow (versionUpsert programId program effectiveFrom)
  program.sources.forM fun source => seedSource source country versionId
  return versionId

def seedProgramsForCountry (countryId : UUID) (country : CatalogCountry) (effectiveFrom : Instant) :
    Script schema Unit :=
  country.programs.forM fun program => do
    let programId ← seedProgram countryId program
    let _ ← seedProgramVersionAndSources programId country program effectiveFrom

def seedMvpCatalog (catalog : List CatalogCountry) (effectiveFrom : Instant) : Script schema Unit :=
  catalog.forM fun country => do
    let countryId ← seedCountry country
    seedProgramsForCountry countryId country effectiveFrom

end ImigrAI.Scripts
