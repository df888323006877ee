import ImigrAI.Foundations.Sorting
import ImigrAI.Scripts.SourceTargets
import ImigrAI.Scripts.SeededVersions

/-!
# Checking the seed

`check_mvp_seed` counts what is stored for the countries of the catalogue and compares it with what
the catalogue lists. After a run of the seeders nothing is missing, and the check fails only for
documents that were stored twice before.
-/

namespace ImigrAI.Scripts

open Python ImmigrationRules Ingestion Upserts Fallible Sorting

/-- An inner join. -/
def joined {Left Right : Type} (lefts : List Left) (rights : List Right)
    (on : Left → Right → Bool) : List (Left × Right) :=
  lefts.flatMap fun left => (rights.filter (on left)).map (left, ·)

structure SeedCounts where
  countries : ℕ
  programs : ℕ
  programVersions : ℕ
  sourceRegistry : ℕ
  sourceDocuments : ℕ
deriving DecidableEq

/-- A group of documents of a version with one URL that has more than one. -/
structure DuplicateRow where
  programVersionId : UUID
  sourceUrl : String
  count : ℕ
deriving DecidableEq

structure SeedChecks where
  countries : Bool
  programs : Bool
  programVersions : Bool
  sourceRegistry : Bool
  sourceDocuments : Bool
  sourceDocumentsUniquePerVersionUrl : Bool
deriving DecidableEq

/-- `all(checks.values())`. -/
def SeedChecks.all (checks : SeedChecks) : Bool :=
  checks.countries && checks.programs && checks.programVersions && checks.sourceRegistry &&
    checks.sourceDocuments && checks.sourceDocumentsUniquePerVersionUrl

structure SeedReport where
  ok : Bool
  checks : SeedChecks
  expected : SeedCounts
  actual : SeedCounts
  missingCountryCodes : List String
  sourceDocumentDuplicates : List DuplicateRow

def listedPrograms (catalog : List CatalogCountry) : List (CatalogCountry × CatalogProgram) :=
  catalog.flatMap fun country => country.programs.map fun program => (country, program)

/-- `expected_country_count`, `expected_program_count` and `expected_source_count`. -/
def expectedCounts (catalog : List CatalogCountry) : SeedCounts where
  countries := catalog.length
  programs := (catalog.map fun country => country.programs.length).sum
  programVersions := (catalog.map fun country => country.programs.length).sum
  sourceRegistry := (catalog.map fun country =>
    (country.programs.map fun program => program.sources.length).sum).sum
  sourceDocuments := (catalog.map fun country =>
    (country.programs.map fun program => program.sources.length).sum).sum

section Report

variable [ColumnTypes] (store : Store schema)

def joinedPrograms : List (ImmigrationProgram × Country) :=
  joined (store.rows .programs) (store.rows .countries) fun program country =>
    country.id = program.countryId

def joinedVersions : List (ProgramVersion × ImmigrationProgram × Country) :=
  joined (store.rows .programVersions) (joinedPrograms store) fun version of =>
    of.1.id = version.programId

def joinedDocuments : List (SourceDocument × ProgramVersion × ImmigrationProgram × Country) :=
  joined (store.rows .sourceDocuments) (joinedVersions store) fun document of =>
    document.programVersionId = some of.1.id

def actualCounts (countryCodes : List String) : SeedCounts where
  countries := (store.rows .countries).countP fun country => country.code ∈ countryCodes
  programs := (joinedPrograms store).countP fun row => row.2.code ∈ countryCodes
  programVersions := (joinedVersions store).countP fun row => row.2.2.code ∈ countryCodes
  sourceRegistry := (store.rows .sourceRegistry).countP fun source =>
    source.countryCode ∈ countryCodes
  sourceDocuments := (joinedDocuments store).countP fun row => row.2.2.2.code ∈ countryCodes

/-- The versions and URLs of the documents that have a version. -/
def versionUrls : List (UUID × String) :=
  (store.rows .sourceDocuments).filterMap fun document =>
    document.programVersionId.map fun versionId => (versionId, document.sourceUrl)

def duplicateRows : List DuplicateRow :=
  ((versionUrls store).dedup.filter fun group => 1 < (versionUrls store).count group).map
    fun group => ⟨group.1, group.2, (versionUrls store).count group⟩

def checkSeed (catalog : List CatalogCountry) : SeedReport :=
  let countryCodes := catalog.map (·.code)
  let actual := actualCounts store countryCodes
  let expected := expectedCounts catalog
  let checks : SeedChecks := {
    countries := expected.countries ≤ actual.countries
    programs := expected.programs ≤ actual.programs
    programVersions := expected.programVersions ≤ actual.programVersions
    sourceRegistry := expected.sourceRegistry ≤ actual.sourceRegistry
    sourceDocuments := expected.sourceDocuments ≤ actual.sourceDocuments
    sourceDocumentsUniquePerVersionUrl := (duplicateRows store).length = 0 }
  { ok := checks.all
    checks
    expected
    actual
    missingCountryCodes := sortBy id
      (countryCodes.dedup.filter fun code => code ∉ (store.rows .countries).map (·.code))
    sourceDocumentDuplicates := duplicateRows store }

end Report

theorem mem_joined {Left Right : Type} {lefts : List Left} {rights : List Right}
    {on : Left → Right → Bool} {left : Left} {right : Right} :
    (left, right) ∈ joined lefts rights on ↔ left ∈ lefts ∧ right ∈ rights ∧ on left right := by
  simp [joined]

/-- Where every listed key has a row that counts, and the keys differ, no fewer rows count. -/
theorem length_le_countP {Listing Row Key : Type} {listings : List Listing} {rows : List Row}
    {listedKey : Listing → Key} {counts : Row → Bool} (rowKey : Row → Key)
    (distinct : (listings.map listedKey).Nodup)
    (found : ∀ listing ∈ listings, ∃ row ∈ rows, counts row ∧ rowKey row = listedKey listing) :
    listings.length ≤ rows.countP counts := by
  have subset : listings.map listedKey ⊆ (rows.filter counts).map rowKey := by
    intro key isListed
    obtain ⟨listing, listed, rfl⟩ := List.mem_map.mp isListed
    obtain ⟨row, isRow, isCounted, sameKey⟩ := found listing listed
    exact List.mem_map.mpr ⟨row, List.mem_filter.mpr ⟨isRow, isCounted⟩, sameKey⟩
  have length := (List.subperm_of_subset distinct subset).length_le
  simpa [List.countP_eq_length_filter] using length

theorem mem_listedPrograms {catalog : List CatalogCountry}
    {listing : CatalogCountry × CatalogProgram} :
    listing ∈ listedPrograms catalog ↔ listing.1 ∈ catalog ∧ listing.2 ∈ listing.1.programs := by
  obtain ⟨country, program⟩ := listing
  simp [listedPrograms]

theorem length_listedPrograms (catalog : List CatalogCountry) :
    (listedPrograms catalog).length = (expectedCounts catalog).programs := by
  simp [listedPrograms, expectedCounts, List.length_flatMap]

theorem length_listedSources (catalog : List CatalogCountry) :
    (listedSources catalog).length = (expectedCounts catalog).sourceDocuments := by
  simp [listedSources, expectedCounts, List.length_flatMap]

/-- What the catalogue lists has different keys. -/
structure DistinctListings (catalog : List CatalogCountry) : Prop where
  countries : (catalog.map (·.code)).Nodup
  programs : ((listedPrograms catalog).map fun listing => (listing.1.code, listing.2.code)).Nodup
  sources : DistinctKeys catalog
  documents : ((listedSources catalog).map fun listing =>
    (listing.1.code, listing.2.1.code, listing.2.1.version, listing.2.2.sourceUrl)).Nodup

theorem distinctListings_mvp : DistinctListings mvpCountryCatalog where
  countries := by decide +kernel
  programs := by decide +kernel
  sources := distinctKeys_mvpCountryCatalog
  documents := by decide +kernel

section Runs

variable [ColumnTypes] {draw : Store schema → NewRow} {store after : Store schema}

/-- The version and its documents are found. -/
def VersionStored (programId : UUID) (program : CatalogProgram) (store : Store schema) : Prop :=
  ∃ versionId,
    @Store.lookup schema store .programVersions (programId, program.version) = some versionId ∧
      ∀ source ∈ program.sources, ∃ documentId,
        @Store.lookup schema store .sourceDocuments (some versionId, source.sourceUrl) =
          some documentId

/-- The country is found, with its programs, their versions and their documents. -/
def CountryStored (country : CatalogCountry) (store : Store schema) : Prop :=
  ∃ countryId, @Store.lookup schema store .countries country.code = some countryId ∧
    ∀ program ∈ country.programs, ∃ programId,
      @Store.lookup schema store .programs (countryId, program.code) = some programId ∧
        VersionStored programId program store

theorem VersionStored.grow {programId : UUID} {program : CatalogProgram}
    (stored : VersionStored programId program store) (grows : Grows store after) :
    VersionStored programId program after := by
  obtain ⟨versionId, isVersion, documents⟩ := stored
  refine ⟨versionId, grows.lookup isVersion, fun source sourceMem => ?_⟩
  obtain ⟨documentId, isDocument⟩ := documents source sourceMem
  exact ⟨documentId, grows.lookup isDocument⟩

theorem CountryStored.grow {country : CatalogCountry} (stored : CountryStored country store)
    (grows : Grows store after) : CountryStored country after := by
  obtain ⟨countryId, isCountry, programs⟩ := stored
  refine ⟨countryId, grows.lookup isCountry, fun program programMem => ?_⟩
  obtain ⟨programId, isProgram, version⟩ := programs program programMem
  exact ⟨programId, grows.lookup isProgram, version.grow grows⟩

theorem keeps_seedSource_stored (source : CatalogSource) (country : CatalogCountry)
    (versionId : UUID) :
    Script.Keeps (.growing schema) draw (seedSource source country versionId) store fun _ after =>
      ∃ documentId,
        @Store.lookup schema after .sourceDocuments (some versionId, source.sourceUrl) =
          some documentId := by
  apply Script.keeps_bind (Script.keeps_ofExcept trivial)
  intro middle seed _ _
  apply Script.keeps_bind (Script.keeps_growing _)
  intro registered sourceId _ _
  exact Script.keeps_discard (Script.keeps_growing (documentUpsert source country versionId sourceId))

theorem keeps_seedProgramVersionAndSources_stored (programId : UUID) (country : CatalogCountry)
    (program : CatalogProgram) (effectiveFrom : Instant) :
    Script.Keeps (.growing schema) draw
      (seedProgramVersionAndSources programId country program effectiveFrom) store
      fun _ => VersionStored programId program := by
  apply Script.keeps_bind (Script.keeps_growing _)
  intro middle versionId _ isVersion
  have documents : Script.Keeps (.growing schema) draw
      (program.sources.forM fun source => seedSource source country versionId) middle
      fun _ after => ∀ source ∈ program.sources, ∃ documentId,
        @Store.lookup schema after .sourceDocuments (some versionId, source.sourceUrl) =
          some documentId := by
    apply Script.keeps_forM trivial
    · rintro source _ before after ⟨documentId, isDocument⟩ moved
      exact ⟨documentId, moved.lookup isDocument⟩
    · intro source _ before _
      exact keeps_seedSource_stored source country versionId
  have stored : Script.Keeps (.growing schema) draw
      (program.sources.forM fun source => seedSource source country versionId) middle
      fun _ => VersionStored programId program := by
    apply documents.mono
    intro _ after moved found
    exact ⟨versionId, moved.lookup isVersion, found⟩
  apply Script.keeps_bind stored
  intro after _ _ found
  exact Script.keeps_pure trivial found

theorem keeps_seedMvpCatalog_stored (catalog : List CatalogCountry) (effectiveFrom : Instant) :
    Script.Keeps (.growing schema) draw (seedMvpCatalog catalog effectiveFrom) store
      fun _ after => ∀ country ∈ catalog, CountryStored country after := by
  apply Script.keeps_forM trivial
  · intro country _ before after stored moved
    exact stored.grow moved
  · intro country _ before _
    apply Script.keeps_bind (Script.keeps_growing (countryUpsert country))
    intro middle countryId _ isCountry
    have programs : Script.Keeps (.growing schema) draw
        (seedProgramsForCountry countryId country effectiveFrom) middle
        fun _ after => ∀ program ∈ country.programs, ∃ programId,
          @Store.lookup schema after .programs (countryId, program.code) = some programId ∧
            VersionStored programId program after := by
      apply Script.keeps_forM trivial
      · rintro program _ before after ⟨programId, isProgram, version⟩ moved
        exact ⟨programId, moved.lookup isProgram, version.grow moved⟩
      · intro program _ before _
        apply Script.keeps_bind (Script.keeps_growing (programUpsert countryId program))
        intro programmed programId _ isProgram
        apply (Script.keeps_discard (keeps_seedProgramVersionAndSources_stored programId country
          program effectiveFrom)).mono
        rintro _ after moved ⟨_, version⟩
        exact ⟨programId, moved.lookup isProgram, version⟩
    apply programs.mono
    intro _ after moved found
    exact ⟨countryId, moved.lookup isCountry, found⟩

/-- The registry is left as it is. -/
def registryKept : Course schema where
  invariant _ := True
  moves store after := after.rows .sourceRegistry = store.rows .sourceRegistry
  refl _ := rfl
  trans first second := second.trans first

theorem keeps_registry {table : Table} (op : Upsert schema table) (other : table ≠ .sourceRegistry) :
    Script.Keeps registryKept draw (.upsertRow op) store fun _ _ => True := by
  apply Script.keeps_upsertRow
  intro after id step
  exact ⟨trivial, step.rows_of_ne other.symm, trivial⟩

theorem keeps_registry_seedFixtures (fixtures : List Fixture) :
    Script.Keeps registryKept draw (seedFixtures fixtures) store fun _ _ => True := by
  apply Script.keeps_loop trivial
  intro fixture _ before _
  apply Script.keeps_bind (keeps_registry _ (by decide))
  intro _ countryId _ _
  apply Script.keeps_bind (keeps_registry _ (by decide))
  intro _ programId _ _
  apply Script.keeps_bind (keeps_registry _ (by decide))
  intro _ versionId _ _
  apply Script.keeps_loop trivial
  intro group _ before _
  apply Script.keeps_bind (keeps_registry _ (by decide))
  intro grouped groupId _ _
  have conditions : Script.Keeps registryKept draw
      (group.conditions.forM fun condition => do
        let _ ← .upsertRow (ruleConditionUpsert groupId condition)) grouped fun _ _ => True := by
    apply Script.keeps_loop trivial
    intro condition _ before _
    exact (Script.keeps_discard (keeps_registry _ (by decide))).weaken
  apply Script.keeps_bind conditions
  intro conditioned _ _ _
  apply Script.keeps_loop trivial
  intro outcome _ before _
  exact (Script.keeps_discard (keeps_registry _ (by decide))).weaken

/-- The version and URL in the key of a document. -/
def versionUrl (key : Option UUID × String) : Option (UUID × String) :=
  key.1.map fun versionId => (versionId, key.2)

theorem versionUrls_eq (store : Store schema) :
    versionUrls store =
      ((store.rows .sourceDocuments).map (@Schema.key schema .sourceDocuments)).filterMap
        versionUrl := by
  rw [List.filterMap_map]
  rfl

theorem nodup_versionUrls_step {table : Table} {op : Upsert schema table} {id : UUID}
    (step : op.Step store after id) :
    (versionUrls after).Nodup ↔ (versionUrls store).Nodup := by
  rw [versionUrls_eq, versionUrls_eq]
  rcases step.keys .sourceDocuments with same | ⟨key, isNew, added⟩
  · rw [same]
  · rw [added, List.filterMap_append]
    obtain ⟨programVersionId, sourceUrl⟩ := key
    cases programVersionId with
    | none =>
        have empty : [((none : Option UUID), sourceUrl)].filterMap versionUrl = [] := rfl
        rw [empty, List.append_nil]
    | some versionId =>
        have absent : (versionId, sourceUrl) ∉
            ((store.rows .sourceDocuments).map (@Schema.key schema .sourceDocuments)).filterMap
              versionUrl := by
          intro isGroup
          obtain ⟨other, otherMem, isOther⟩ := List.mem_filterMap.mp isGroup
          obtain ⟨otherVersion, otherUrl⟩ := other
          obtain ⟨found, isFound, isPair⟩ := Option.map_eq_some_iff.mp isOther
          dsimp only at isFound
          subst isFound
          obtain ⟨rfl, rfl⟩ := Prod.mk.inj isPair
          exact isNew otherMem
        have single : [(some versionId, sourceUrl)].filterMap versionUrl =
            [(versionId, sourceUrl)] := rfl
        rw [single, List.nodup_append_comm, List.singleton_append, List.nodup_cons]
        simp only [absent, not_false_eq_true, true_and]

theorem nodup_versionUrls_of_run {Result : Type} {script : Script schema Result} {result : Result}
    (completed : script.run draw store = .ok (after, result)) :
    (versionUrls after).Nodup ↔ (versionUrls store).Nodup :=
  @Script.preserves schema Result draw
    (fun other => (versionUrls other).Nodup ↔ (versionUrls store).Nodup)
    (fun step same => (nodup_versionUrls_step step).trans same) script store after result completed
    Iff.rfl

theorem duplicateRows_eq_nil_iff (store : Store schema) :
    (duplicateRows store).length = 0 ↔ (versionUrls store).Nodup := by
  rw [List.length_eq_zero_iff, duplicateRows, List.map_eq_nil_iff, List.filter_eq_nil_iff,
    List.nodup_iff_count_le_one]
  constructor
  · intro none group
    by_cases isGroup : group ∈ versionUrls store
    · have single := none group (List.mem_dedup.mpr isGroup)
      simpa using single
    · simp [List.count_eq_zero_of_not_mem isGroup]
  · intro single group _
    simpa using single group

/-- The rows of a country of the catalogue, as the joins of the check see them. -/
theorem CountryStored.joined {country : CatalogCountry} (stored : CountryStored country store) :
    (∃ row ∈ store.rows .countries, row.code = country.code) ∧
      ∀ program ∈ country.programs,
        (∃ row ∈ joinedPrograms store, row.2.code = country.code ∧ row.1.code = program.code) ∧
        (∃ row ∈ joinedVersions store, row.2.2.code = country.code ∧
          row.2.1.code = program.code ∧ row.1.version = program.version) ∧
        ∀ source ∈ program.sources, ∃ row ∈ joinedDocuments store,
          row.2.2.2.code = country.code ∧ row.2.2.1.code = program.code ∧
            row.2.1.version = program.version ∧ row.1.sourceUrl = source.sourceUrl := by
  obtain ⟨countryId, isCountry, programs⟩ := stored
  obtain ⟨countryRow, countryMem, countryRowId, countryKey⟩ := Store.exists_row_of_lookup isCountry
  have countryCode : countryRow.code = country.code := countryKey
  refine ⟨⟨countryRow, countryMem, countryCode⟩, fun program programMem => ?_⟩
  obtain ⟨programId, isProgram, versionId, isVersion, documents⟩ := programs program programMem
  obtain ⟨programRow, programRowMem, programRowId, programKey⟩ :=
    Store.exists_row_of_lookup isProgram
  obtain ⟨versionRow, versionMem, versionRowId, versionKey⟩ := Store.exists_row_of_lookup isVersion
  obtain ⟨ofCountry, programCode⟩ := Prod.mk.inj programKey
  obtain ⟨ofProgram, version⟩ := Prod.mk.inj versionKey
  have programJoined : (programRow, countryRow) ∈ joinedPrograms store := by
    apply mem_joined.mpr
    have sameId : countryRow.id = countryId := countryRowId
    exact ⟨programRowMem, countryMem, by simp [ofCountry, sameId]⟩
  have versionJoined : (versionRow, programRow, countryRow) ∈ joinedVersions store := by
    apply mem_joined.mpr
    have sameId : programRow.id = programId := programRowId
    exact ⟨versionMem, programJoined, by simp [ofProgram, sameId]⟩
  refine ⟨⟨_, programJoined, countryCode, programCode⟩,
    ⟨_, versionJoined, countryCode, programCode, version⟩, fun source sourceMem => ?_⟩
  obtain ⟨documentId, isDocument⟩ := documents source sourceMem
  obtain ⟨document, documentMem, _, documentKey⟩ := Store.exists_row_of_lookup isDocument
  obtain ⟨ofVersion, sourceUrl⟩ := Prod.mk.inj documentKey
  have documentJoined : (document, versionRow, programRow, countryRow) ∈ joinedDocuments store := by
    apply mem_joined.mpr
    have sameId : versionRow.id = versionId := versionRowId
    exact ⟨documentMem, versionJoined, by simp [ofVersion, sameId]⟩
  exact ⟨_, documentJoined, countryCode, programCode, version, sourceUrl⟩

/-- The counts that the check makes are at least those of a catalogue that is stored. -/
structure CountsReached (expected actual : SeedCounts) : Prop where
  countries : expected.countries ≤ actual.countries
  programs : expected.programs ≤ actual.programs
  programVersions : expected.programVersions ≤ actual.programVersions
  sourceRegistry : expected.sourceRegistry ≤ actual.sourceRegistry
  sourceDocuments : expected.sourceDocuments ≤ actual.sourceDocuments

theorem countsReached_of_stored {catalog : List CatalogCountry}
    (distinct : DistinctListings catalog)
    (stored : ∀ country ∈ catalog, CountryStored country store)
    (registered : RegisteredBy .mvpCatalog catalog store) :
    CountsReached (expectedCounts catalog) (actualCounts store (catalog.map (·.code))) where
  countries := by
    change catalog.length ≤ _
    apply length_le_countP (fun row => row.code) distinct.countries
    intro country countryMem
    obtain ⟨row, rowMem, code⟩ := (stored country countryMem).joined.1
    exact ⟨row, rowMem, by simpa [code] using ⟨country, countryMem, rfl⟩, code⟩
  programs := by
    rw [← length_listedPrograms]
    apply length_le_countP (fun row => (row.2.code, row.1.code)) distinct.programs
    intro listing listed
    obtain ⟨countryMem, programMem⟩ := mem_listedPrograms.mp listed
    obtain ⟨⟨row, rowMem, countryCode, programCode⟩, _⟩ :=
      (stored _ countryMem).joined.2 _ programMem
    exact ⟨row, rowMem, by simpa [countryCode] using ⟨_, countryMem, rfl⟩,
      by rw [countryCode, programCode]⟩
  programVersions := by
    have length := length_listedPrograms catalog
    rw [show (expectedCounts catalog).programVersions = (expectedCounts catalog).programs from rfl,
      ← length]
    apply length_le_countP (fun row => (row.2.2.code, row.2.1.code)) distinct.programs
    intro listing listed
    obtain ⟨countryMem, programMem⟩ := mem_listedPrograms.mp listed
    obtain ⟨_, ⟨row, rowMem, countryCode, programCode, _⟩, _⟩ :=
      (stored _ countryMem).joined.2 _ programMem
    exact ⟨row, rowMem, by simpa [countryCode] using ⟨_, countryMem, rfl⟩,
      by rw [countryCode, programCode]⟩
  sourceRegistry := by
    have length := length_listedSources catalog
    rw [show (expectedCounts catalog).sourceRegistry = (expectedCounts catalog).sourceDocuments
      from rfl, ← length]
    apply length_le_countP (fun row => row.sourceKey) distinct.sources
    intro listing listed
    obtain ⟨row, found, named⟩ := registered listing listed
    obtain ⟨rowMem, sourceKey⟩ := @Store.find?_mem schema store .sourceRegistry _ row found
    have countryCode : row.countryCode = listing.1.code := congrArg Prod.fst named
    exact ⟨row, rowMem, by simpa [countryCode] using ⟨_, (mem_listedSources.mp listed).1, rfl⟩,
      sourceKey⟩
  sourceDocuments := by
    rw [← length_listedSources]
    apply length_le_countP
      (fun row => (row.2.2.2.code, row.2.2.1.code, row.2.1.version, row.1.sourceUrl))
      distinct.documents
    intro listing listed
    obtain ⟨countryMem, programMem, sourceMem⟩ := mem_listedSources.mp listed
    obtain ⟨row, rowMem, countryCode, programCode, version, sourceUrl⟩ :=
      ((stored _ countryMem).joined.2 _ programMem).2.2 _ sourceMem
    exact ⟨row, rowMem, by simpa [countryCode] using ⟨_, countryMem, rfl⟩,
      by rw [countryCode, programCode, version, sourceUrl]⟩

section CheckSeed

variable [UnicodeData] {data : SeedData}

theorem stored_of_runSeed (distinct : DistinctListings data.catalog) (unique : store.PrimaryKeys)
    (completed : (runSeed data).run draw store = .ok (after, ())) :
    (∀ country ∈ data.catalog, CountryStored country after) ∧
      RegisteredBy .mvpCatalog data.catalog after := by
  rw [runSeed, Script.run_bind] at completed
  obtain ⟨⟨middle, _⟩, catalogRan, rulesRan⟩ := bind_eq_ok_iff.mp completed
  have stored := (keeps_seedMvpCatalog_stored data.catalog data.effectiveFrom middle ()
    catalogRan).2.2
  have registered := (keeps_seedMvpCatalog distinct.sources data.effectiveFrom unique middle ()
    catalogRan).2.2
  have grows := Script.grows_of_run rulesRan
  have kept : after.rows .sourceRegistry = middle.rows .sourceRegistry := by
    rw [seedForCountries] at rulesRan
    split_ifs at rulesRan
    · obtain ⟨rfl, _⟩ := Prod.mk.inj (Except.ok.inj rulesRan)
      rfl
    · exact (keeps_registry_seedFixtures _ after () rulesRan).2.1
  constructor
  · intro country countryMem
    exact (stored country countryMem).grow grows
  · intro listing listed
    obtain ⟨row, found, named⟩ := registered listing listed
    exact ⟨row, by rwa [getSourceByKey, kept], named⟩

/-- After a completed run of the seeders on any database, the check reaches all its counts and
misses no country, and it is passed exactly if no document was stored twice before the run. -/
theorem checkSeed_of_runSeed (distinct : DistinctListings data.catalog)
    (unique : store.PrimaryKeys)
    (completed : (runSeed data).run draw store = .ok (after, ())) :
    CountsReached (checkSeed after data.catalog).expected (checkSeed after data.catalog).actual ∧
      (checkSeed after data.catalog).missingCountryCodes = [] ∧
        ((checkSeed after data.catalog).ok ↔ (versionUrls store).Nodup) := by
  obtain ⟨stored, registered⟩ := stored_of_runSeed distinct unique completed
  have reached := countsReached_of_stored distinct stored registered
  refine ⟨reached, ?_, ?_⟩
  · have none : ((data.catalog.map (·.code)).dedup.filter fun code =>
        code ∉ (after.rows .countries).map (·.code)) = [] := by
      rw [List.filter_eq_nil_iff]
      intro code isCode
      obtain ⟨country, countryMem, rfl⟩ := List.mem_map.mp (List.mem_dedup.mp isCode)
      obtain ⟨row, rowMem, code⟩ := (stored country countryMem).joined.1
      simpa [← code] using ⟨row, rowMem, rfl⟩
    simp only [checkSeed, none]
    rfl
  · rw [← nodup_versionUrls_of_run completed, ← duplicateRows_eq_nil_iff]
    simp [checkSeed, SeedChecks.all, reached.countries, reached.programs, reached.programVersions,
      reached.sourceRegistry, reached.sourceDocuments]

end CheckSeed

end Runs

section FirstCheck

local instance checkedColumns : ColumnTypes := .any

local instance checkedUnicode : UnicodeData := .ascii

theorem checkSeed_of_runSeed_sample :
    ∃ after, (runSeed mvpSeedData).run countingDraw emptyStore = .ok (after, ()) ∧
      CountsReached (checkSeed after mvpCountryCatalog).expected
        (checkSeed after mvpCountryCatalog).actual ∧
      (checkSeed after mvpCountryCatalog).missingCountryCodes = [] ∧
      ((checkSeed after mvpCountryCatalog).ok ↔ (versionUrls emptyStore).Nodup) := by
  obtain ⟨after, completed⟩ := runSeed_emptyStore
  exact ⟨after, completed,
    checkSeed_of_runSeed distinctListings_mvp sound_emptyStore.unique completed⟩

end FirstCheck

end ImigrAI.Scripts
