import ImigrAI.Scripts.SeedInitialData

/-!
# The program that a source is registered for

Ingestion publishes what it reads from a source to the program that the registry names for it.
Both seeders register the sources of the catalogue, and each overwrites what the other has
written. `seed_default_sources` names the program that lists the source; `seed_mvp_catalog` names
the country in its place.
-/

namespace ImigrAI.Scripts

open Upserts Fallible

/-- A source of a catalogue with the country and the program that list it. -/
abbrev Listing := CatalogCountry × CatalogProgram × CatalogSource

/-- The columns that say which program a source is for. -/
def SourceFields.target (fields : SourceFields) : String × String × String × String :=
  (fields.countryCode, fields.countryName, fields.programCode, fields.programName)

def Listing.target (listing : Listing) : String × String × String × String :=
  (listing.1.code, listing.1.name, listing.2.1.code, listing.2.1.name)

/-- The seed of `seed_default_sources` for a listed source. -/
def Listing.defaultFields (listing : Listing) : SourceFields :=
  defaultSourceFields listing.1 listing.2.1 listing.2.2

/-- The seed of `seed_mvp_catalog` for a listed source. -/
def Listing.catalogFields (listing : Listing) : SourceFields :=
  catalogSourceFields listing.2.2 listing.1

def DistinctKeys (catalog : List CatalogCountry) : Prop :=
  ((listedSources catalog).map fun listing => listing.2.2.sourceKey).Nodup

/-- Every program that lists a source is named like its country. -/
def NamedForCountry (catalog : List CatalogCountry) : Prop :=
  ∀ listing ∈ listedSources catalog,
    listing.2.1.code = listing.1.code ∧ listing.2.1.name = listing.1.name

inductive Seeder where
  | mvpCatalog
  | defaultSources
deriving DecidableEq

/-- The seed that a seeder builds for a listed source. -/
def Seeder.fields : Seeder → Listing → SourceFields
  | .mvpCatalog => Listing.catalogFields
  | .defaultSources => Listing.defaultFields

theorem Seeder.sourceKey_fields (seeder : Seeder) (listing : Listing) :
    (seeder.fields listing).sourceKey = listing.2.2.sourceKey := by
  cases seeder <;> rfl

theorem SourceFields.validate_eq_ok_iff {fields : SourceFields} {seed : SourceRegistrySeed} :
    fields.validate = .ok seed ↔ seed.toSourceFields = fields := by
  unfold SourceFields.validate
  split_ifs with withinBounds
  · rcases seed with ⟨seedFields, seedWithin⟩
    simp [eq_comm]
  · simp only [false_iff]
    rintro rfl
    exact withinBounds seed.withinBounds

theorem mem_listedSources {catalog : List CatalogCountry} {listing : Listing} :
    listing ∈ listedSources catalog ↔
      listing.1 ∈ catalog ∧ listing.2.1 ∈ listing.1.programs ∧
        listing.2.2 ∈ listing.2.1.sources := by
  rcases listing with ⟨country, program, source⟩
  simp only [listedSources, List.mem_flatMap, List.mem_map, Prod.mk.injEq]
  constructor
  · rintro ⟨_, countryMem, _, programMem, _, sourceMem, rfl, rfl, rfl⟩
    exact ⟨countryMem, programMem, sourceMem⟩
  · rintro ⟨countryMem, programMem, sourceMem⟩
    exact ⟨country, countryMem, program, programMem, source, sourceMem, rfl, rfl, rfl⟩

theorem target_catalogFields_eq_iff (listing : Listing) :
    (Listing.catalogFields listing).target = Listing.target listing ↔
      listing.2.1.code = listing.1.code ∧ listing.2.1.name = listing.1.name := by
  simp [Listing.catalogFields, catalogSourceFields, sourceFields, SourceFields.target,
    Listing.target, eq_comm]

section Registry

variable [ColumnTypes]

/-- `get_source_by_key`. -/
def getSourceByKey (store : Store schema) (sourceKey : String) : Option SourceRegistry :=
  (store.rows .sourceRegistry).find? fun row => row.sourceKey = sourceKey

/-- The registry has the source and names this target for it. -/
def Registered (sourceKey : String) (target : String × String × String × String)
    (store : Store schema) : Prop :=
  ∃ row, getSourceByKey store sourceKey = some row ∧ row.target = target

/-- The registry names for every source the program of the catalogue that lists it. -/
def RegistryNames (catalog : List CatalogCountry) (store : Store schema) : Prop :=
  ∀ listing ∈ listedSources catalog, Registered listing.2.2.sourceKey (Listing.target listing) store

def Seeder.script (catalog : List CatalogCountry) (effectiveFrom : Python.Instant) :
    Seeder → Script schema Unit
  | .mvpCatalog => seedMvpCatalog catalog effectiveFrom
  | .defaultSources => seedDefaultSources catalog

/-- Some runs of the seeders in any order, with the last one apart. -/
def runSeeders (catalog : List CatalogCountry) (effectiveFrom : Python.Instant)
    (earlier : List Seeder) (last : Seeder) : Script schema Unit := do
  earlier.forM fun seeder => seeder.script catalog effectiveFrom
  last.script catalog effectiveFrom

/-- Both seeders build seeds with the same target for every source, and after any runs of them
the registry names for every source the program that lists it. -/
def SourcesAgree (catalog : List CatalogCountry) : Prop :=
  (∀ listing ∈ listedSources catalog,
    (Listing.catalogFields listing).target = (Listing.defaultFields listing).target) ∧
  ∀ (draw : Store schema → NewRow) (store after : Store schema) (effectiveFrom : Python.Instant)
    (earlier : List Seeder) (last : Seeder), store.PrimaryKeys →
    (runSeeders catalog effectiveFrom earlier last).run draw store = .ok (after, ()) →
      RegistryNames catalog after

variable {store after : Store schema}

theorem registered_of_upsert {seed : SourceRegistrySeed} {id : Python.UUID}
    (step : (sourceUpsert seed).Step store after id) :
    Registered seed.sourceKey seed.target after := by
  rcases step.found_after with ⟨row, found, -, settled⟩
  refine ⟨row, found, ?_⟩
  have fixed : @assign .sourceRegistry seed.toSourceFields row = row := (settled _ rfl).1
  rw [← fixed]
  rfl

theorem Registered.upsert {seed : SourceRegistrySeed} {id : Python.UUID} {sourceKey : String}
    {target : String × String × String × String} (registered : Registered sourceKey target store)
    (step : (sourceUpsert seed).Step store after id) (unique : store.PrimaryKeys)
    (agree : sourceKey = seed.sourceKey → target = seed.target) :
    Registered sourceKey target after := by
  by_cases same : sourceKey = seed.sourceKey
  · rw [agree same, same]
    exact registered_of_upsert step
  · rcases registered with ⟨row, found, named⟩
    exact ⟨row, step.find?_of_ne_key unique same found, named⟩

variable {catalog : List CatalogCountry} {draw : Store schema → NewRow}

/-- While a seeder runs, what it has registered stays registered. -/
def Seeder.course (catalog : List CatalogCountry) (seeder : Seeder) : Course schema where
  invariant := Store.PrimaryKeys
  moves store after := ∀ listing ∈ listedSources catalog,
    Registered listing.2.2.sourceKey (seeder.fields listing).target store →
      Registered listing.2.2.sourceKey (seeder.fields listing).target after
  refl _ _ _ registered := registered
  trans first second listing listed registered :=
    second listing listed (first listing listed registered)

theorem keeps_other {seeder : Seeder} {table : Table} (op : Upsert schema table)
    (other : table ≠ .sourceRegistry) (unique : store.PrimaryKeys) :
    Script.Keeps (seeder.course catalog) draw (.upsertRow op) store fun _ _ => True := by
  apply Script.keeps_upsertRow
  intro after id step
  refine ⟨step.primaryKeys unique, fun listing _ registered => ?_, trivial⟩
  rcases registered with ⟨row, found, named⟩
  refine ⟨row, ?_, named⟩
  rwa [getSourceByKey, step.rows_of_ne other.symm]

theorem keeps_register {seeder : Seeder} (distinct : DistinctKeys catalog) {listing : Listing}
    (listed : listing ∈ listedSources catalog) {seed : SourceRegistrySeed}
    (built : (seeder.fields listing).validate = .ok seed) (unique : store.PrimaryKeys) :
    Script.Keeps (seeder.course catalog) draw (upsertSourceSeed seed) store fun _ =>
      Registered listing.2.2.sourceKey (seeder.fields listing).target := by
  have fields := SourceFields.validate_eq_ok_iff.mp built
  have key : seed.sourceKey = listing.2.2.sourceKey := by
    rw [fields, seeder.sourceKey_fields]
  apply Script.keeps_upsertRow
  intro after id step
  refine ⟨step.primaryKeys unique, fun other otherListed registered => ?_, ?_⟩
  · refine registered.upsert step unique fun sameKey => ?_
    have same : other = listing :=
      List.inj_on_of_nodup_map distinct otherListed listed (sameKey.trans key)
    rw [same, fields]
  · have registered := registered_of_upsert step
    rwa [key, fields] at registered

/-- Every source is registered as the seeder names it. -/
def RegisteredBy (seeder : Seeder) (catalog : List CatalogCountry) (store : Store schema) : Prop :=
  ∀ listing ∈ listedSources catalog,
    Registered listing.2.2.sourceKey (seeder.fields listing).target store

theorem keeps_seedDefaultSources (distinct : DistinctKeys catalog) (unique : store.PrimaryKeys) :
    Script.Keeps (Seeder.defaultSources.course catalog) draw (seedDefaultSources catalog) store
      fun _ => RegisteredBy .defaultSources catalog := by
  refine Script.keeps_bind (Script.keeps_ofExcept unique) fun middle seeds unique built => ?_
  have pairs := mapM_eq_ok_iff.mp built
  have listingOf : ∀ seed ∈ seeds, ∃ listing ∈ listedSources catalog,
      (Seeder.defaultSources.fields listing).validate = .ok seed :=
    exists_mem_of_forall₂ pairs.flip
  have registers : Script.Keeps (Seeder.defaultSources.course catalog) draw
      (seeds.forM fun seed => do let _ ← upsertSourceSeed seed) middle
      fun _ after => ∀ seed ∈ seeds, Registered seed.sourceKey seed.target after := by
    apply Script.keeps_forM unique
    · intro seed seedMem before after registered moved
      rcases listingOf seed seedMem with ⟨listing, listed, valid⟩
      have fields := SourceFields.validate_eq_ok_iff.mp valid
      rw [fields] at registered ⊢
      exact moved listing listed registered
    · intro seed seedMem before unique
      rcases listingOf seed seedMem with ⟨listing, listed, valid⟩
      have fields := SourceFields.validate_eq_ok_iff.mp valid
      refine (Script.keeps_discard (keeps_register distinct listed valid unique)).mono ?_
      rintro _ after _ ⟨_, registered⟩
      rw [fields]
      exact registered
  refine Script.Keeps.mono registers ?_
  intro _ after _ registered listing listed
  rcases exists_mem_of_forall₂ pairs listing listed with ⟨seed, seedMem, valid⟩
  have fields := SourceFields.validate_eq_ok_iff.mp valid
  have named := registered seed seedMem
  rw [fields] at named
  exact named

theorem keeps_seedSource (distinct : DistinctKeys catalog) {listing : Listing}
    (listed : listing ∈ listedSources catalog) (versionId : Python.UUID)
    (unique : store.PrimaryKeys) :
    Script.Keeps (Seeder.mvpCatalog.course catalog) draw
      (seedSource listing.2.2 listing.1 versionId) store
      fun _ => Registered listing.2.2.sourceKey (Listing.catalogFields listing).target := by
  refine Script.keeps_bind (Script.keeps_ofExcept unique) fun middle seed unique built => ?_
  refine Script.keeps_bind (keeps_register distinct listed built unique) ?_
  intro registered sourceId unique holds
  refine Script.Keeps.mono (Script.keeps_discard (keeps_other _ (by decide) unique)) ?_
  intro _ after moved _
  exact moved listing listed holds

/-- Every source of a country is registered as `seed_mvp_catalog` names it. -/
def CountryRegistered (country : CatalogCountry) (store : Store schema) : Prop :=
  ∀ program ∈ country.programs, ∀ source ∈ program.sources,
    Registered source.sourceKey (catalogSourceFields source country).target store

theorem keeps_seedProgramVersionAndSources (distinct : DistinctKeys catalog)
    {country : CatalogCountry} (countryMem : country ∈ catalog) {program : CatalogProgram}
    (programMem : program ∈ country.programs) (programId : Python.UUID)
    (effectiveFrom : Python.Instant) (unique : store.PrimaryKeys) :
    Script.Keeps (Seeder.mvpCatalog.course catalog) draw
      (seedProgramVersionAndSources programId country program effectiveFrom) store
      fun _ after => ∀ source ∈ program.sources,
        Registered source.sourceKey (catalogSourceFields source country).target after := by
  have listed : ∀ source ∈ program.sources, (country, program, source) ∈ listedSources catalog :=
    fun source sourceMem => mem_listedSources.mpr ⟨countryMem, programMem, sourceMem⟩
  refine Script.keeps_bind (keeps_other _ (by decide) unique) fun middle versionId unique _ => ?_
  have sources : Script.Keeps (Seeder.mvpCatalog.course catalog) draw
      (program.sources.forM fun source => seedSource source country versionId) middle
      fun _ after => ∀ source ∈ program.sources,
        Registered source.sourceKey (catalogSourceFields source country).target after := by
    apply Script.keeps_forM unique
    · intro source sourceMem before after registered moved
      exact moved _ (listed source sourceMem) registered
    · intro source sourceMem before unique
      exact keeps_seedSource distinct (listed source sourceMem) versionId unique
  exact Script.keeps_bind sources fun after _ unique registered =>
    Script.keeps_pure unique registered

theorem keeps_seedProgramsForCountry (distinct : DistinctKeys catalog)
    {country : CatalogCountry} (countryMem : country ∈ catalog) (countryId : Python.UUID)
    (effectiveFrom : Python.Instant) (unique : store.PrimaryKeys) :
    Script.Keeps (Seeder.mvpCatalog.course catalog) draw
      (seedProgramsForCountry countryId country effectiveFrom) store
      fun _ => CountryRegistered country := by
  apply Script.keeps_forM unique
  · intro program programMem before after registered moved source sourceMem
    exact moved (country, program, source)
      (mem_listedSources.mpr ⟨countryMem, programMem, sourceMem⟩) (registered source sourceMem)
  · intro program programMem before unique
    refine Script.keeps_bind (keeps_other _ (by decide) unique) fun middle programId unique _ => ?_
    refine Script.Keeps.mono (Script.keeps_discard
      (keeps_seedProgramVersionAndSources distinct countryMem programMem _ _ unique)) ?_
    rintro _ after _ ⟨_, registered⟩
    exact registered

theorem keeps_seedMvpCatalog (distinct : DistinctKeys catalog) (effectiveFrom : Python.Instant)
    (unique : store.PrimaryKeys) :
    Script.Keeps (Seeder.mvpCatalog.course catalog) draw (seedMvpCatalog catalog effectiveFrom)
      store fun _ => RegisteredBy .mvpCatalog catalog := by
  have countries : Script.Keeps (Seeder.mvpCatalog.course catalog) draw
      (seedMvpCatalog catalog effectiveFrom) store
      fun _ after => ∀ country ∈ catalog, CountryRegistered country after := by
    apply Script.keeps_forM unique
    · intro country countryMem before after registered moved program programMem source sourceMem
      exact moved (country, program, source)
        (mem_listedSources.mpr ⟨countryMem, programMem, sourceMem⟩)
        (registered program programMem source sourceMem)
    · intro country countryMem before unique
      refine Script.keeps_bind (keeps_other _ (by decide) unique) ?_
      intro middle countryId unique _
      exact keeps_seedProgramsForCountry distinct countryMem countryId effectiveFrom unique
  refine Script.Keeps.mono countries fun _ after _ registered listing listed => ?_
  rcases mem_listedSources.mp listed with ⟨countryMem, programMem, sourceMem⟩
  exact registered _ countryMem _ programMem _ sourceMem

/-- The last of the seeders decides what the registry names. -/
theorem registeredBy_of_runSeeders (distinct : DistinctKeys catalog)
    {effectiveFrom : Python.Instant} {earlier : List Seeder} {last : Seeder}
    (unique : store.PrimaryKeys)
    (completed : (runSeeders catalog effectiveFrom earlier last).run draw store = .ok (after, ())) :
    RegisteredBy last catalog after := by
  rw [runSeeders, Script.run_bind] at completed
  rcases bind_eq_ok_iff.mp completed with ⟨⟨middle, _⟩, ran, lastRan⟩
  have uniqueThen : middle.PrimaryKeys :=
    Script.preserves (fun step unique => step.primaryKeys unique) ran unique
  cases last with
  | mvpCatalog =>
      exact (keeps_seedMvpCatalog distinct effectiveFrom uniqueThen after () lastRan).2.2
  | defaultSources =>
      exact (keeps_seedDefaultSources distinct uniqueThen after () lastRan).2.2

/-- After any runs of the seeders the registry names the listed programs exactly if
`seed_default_sources` ran last or the programs are named like their countries. -/
theorem registryNames_iff (distinct : DistinctKeys catalog) {effectiveFrom : Python.Instant}
    {earlier : List Seeder} {last : Seeder} (unique : store.PrimaryKeys)
    (completed : (runSeeders catalog effectiveFrom earlier last).run draw store = .ok (after, ())) :
    RegistryNames catalog after ↔ last = .defaultSources ∨ NamedForCountry catalog := by
  have registered := registeredBy_of_runSeeders distinct unique completed
  cases last with
  | defaultSources =>
      refine iff_of_true (fun listing listed => ?_) (Or.inl rfl)
      exact registered listing listed
  | mvpCatalog =>
      simp only [reduceCtorEq, false_or]
      refine forall₂_congr fun listing listed => ?_
      rcases registered listing listed with ⟨row, found, named⟩
      rw [← target_catalogFields_eq_iff]
      constructor
      · rintro ⟨other, otherFound, otherNamed⟩
        rcases Option.some.inj (found.symm.trans otherFound) with rfl
        exact named.symm.trans otherNamed
      · intro same
        exact ⟨row, found, named.trans same⟩

/-- The two ways of registering sources agree on a catalogue exactly if every program that lists
a source has the code and the name of its country. -/
theorem sourcesAgree_iff (distinct : DistinctKeys catalog) :
    SourcesAgree catalog ↔ NamedForCountry catalog := by
  have seeds : (∀ listing ∈ listedSources catalog,
      (Listing.catalogFields listing).target = (Listing.defaultFields listing).target) ↔
        NamedForCountry catalog :=
    forall₂_congr fun listing _ => target_catalogFields_eq_iff listing
  constructor
  · intro agree
    exact seeds.mp agree.1
  · intro named
    refine ⟨seeds.mpr named, ?_⟩
    intro draw store after effectiveFrom earlier last unique completed
    exact (registryNames_iff distinct unique completed).mpr (Or.inr named)

end Registry

section MvpCatalog

local instance registryColumns : ColumnTypes := .any

theorem distinctKeys_mvpCountryCatalog : DistinctKeys mvpCountryCatalog := by
  unfold DistinctKeys
  decide +kernel

/-- A catalogue that names its only program like the country. -/
def countryNamedCatalog : List CatalogCountry :=
  [{ code := "PT"
     name := "Portugal"
     priorityRank := 1
     diasporaPopulationEstimate := 513000
     prioritizationSourceUrl := brasileirosExteriorUrl
     programs :=
       [{ code := "PT"
          name := "Portugal"
          description := "Regras oficiais."
          version := mvpProgramVersion
          sources :=
            [{ sourceKey := "pt_aima"
               sourceType := .html
               sourceUrl := "https://aima.gov.pt/"
               robotsUrl := none
               termsUrl := none
               scheduleCron := none
               documentTitle := "AIMA - Portal Oficial" }] }] }]

theorem sourcesAgree_iff_sample : SourcesAgree countryNamedCatalog := by
  refine (sourcesAgree_iff ?_).mpr ?_
  · simp [DistinctKeys, listedSources, countryNamedCatalog]
  · simp [NamedForCountry, listedSources, countryNamedCatalog]

theorem not_namedForCountry_mvpCountryCatalog : ¬ NamedForCountry mvpCountryCatalog := by
  intro named
  have first := named (listedSources mvpCountryCatalog)[0] (List.getElem_mem _)
  exact absurd first.1 (by decide +kernel)

/-- The registry names the country in the place of the program as soon as the catalogue has been
seeded after the default sources. -/
theorem mvpCatalog_renames_targets :
    DistinctKeys mvpCountryCatalog ∧ ¬ SourcesAgree mvpCountryCatalog ∧
      ∃ after, (runSeeders mvpCountryCatalog mvpProgramEffectiveFrom [.defaultSources]
          .mvpCatalog).run countingDraw emptyStore = .ok (after, ()) ∧
        Registered "us_uscis_main" ("US", "Estados Unidos", "US", "Estados Unidos") after ∧
        ¬ RegistryNames mvpCountryCatalog after := by
  have unique : emptyStore.PrimaryKeys := fun _ => List.nodup_nil
  have completes : ((runSeeders mvpCountryCatalog mvpProgramEffectiveFrom [.defaultSources]
      .mvpCatalog).run countingDraw emptyStore).isOk := by decide +kernel
  rcases exists_of_isOk completes with ⟨⟨after, _⟩, completed⟩
  have registered := registeredBy_of_runSeeders distinctKeys_mvpCountryCatalog unique completed
  have misnames : ¬ RegistryNames mvpCountryCatalog after := by
    rw [registryNames_iff distinctKeys_mvpCountryCatalog unique completed]
    simp [not_namedForCountry_mvpCountryCatalog]
  refine ⟨distinctKeys_mvpCountryCatalog, ?_, after, completed, ?_, misnames⟩
  · intro agree
    exact misnames (agree.2 _ _ _ _ _ _ unique completed)
  · exact registered (listedSources mvpCountryCatalog)[0] (List.getElem_mem _)

end MvpCatalog

end ImigrAI.Scripts
