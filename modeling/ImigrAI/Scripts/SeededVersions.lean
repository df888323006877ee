import ImigrAI.Assessments.Processing
import ImigrAI.Scripts.SeedInitialData

/-!
# The versions that seeding leaves

The rule seeder creates active versions, but it runs after the catalogue seeder, which has
created a draft of every program that it lists. The rule seeder finds the draft under the same
label and leaves it as it is. So no version is active after a run of `seed_initial_data` that was
not active before it.
-/

namespace ImigrAI.Scripts

open Python ImmigrationRules Upserts Fallible Assessments

section SeededVersions

variable [ColumnTypes]

/-- The program that a fixture is about. -/
def IsFixtureProgram (fixture : Fixture) (store : Store schema) (program : ImmigrationProgram) :
    Prop :=
  program ∈ store.rows .programs ∧ program.code = fixture.programCode ∧
    ∃ country ∈ store.rows .countries,
      country.code = fixture.countryCode ∧ country.id = program.countryId

def IsFixtureVersion (fixture : Fixture) (store : Store schema) (version : ProgramVersion) :
    Prop :=
  version ∈ store.rows .programVersions ∧
    ∃ program, IsFixtureProgram fixture store program ∧ program.id = version.programId

/-- The tables as the processing of assessments reads them. -/
def assessedTables (store : Store schema) : Tables where
  countries := (store.rows .countries).map (·.toCountry)
  programs := (store.rows .programs).map (·.toImmigrationProgram)
  versions := store.rows .programVersions
  ruleGroups := (store.rows .ruleGroups).map fun group =>
    { group with
      conditions := ((store.rows .ruleConditions).filter fun condition =>
        condition.ruleGroupId = group.id).map (·.toRuleCondition)
      outcomes := ((store.rows .ruleOutcomes).filter fun outcome =>
        outcome.ruleGroupId = group.id).map (·.toRuleOutcome) }
  sourceDocuments := (store.rows .sourceDocuments).map (·.toSourceDocument)
  sourceExtractions := []

/-- The version has every group of the fixture with its conditions and outcomes. -/
def Carries (fixture : Fixture) (store : Store schema) (version : ProgramVersion) : Prop :=
  ∀ group ∈ fixture.ruleGroups, ∃ stored ∈ (assessedTables store).ruleGroups,
    stored.programVersionId = version.id ∧ stored.code = group.code ∧
    (∀ condition ∈ group.conditions, ∃ row ∈ stored.conditions,
      row.fieldKey = condition.fieldKey ∧ row.operator = condition.operator ∧
        row.valueJson = condition.valueJson) ∧
    ∀ outcome ∈ group.outcomes, ∃ row ∈ stored.outcomes,
      row.outcomeCode = outcome.outcomeCode ∧ row.scoreDelta = outcome.scoreDelta

/-- An active version of the fixture's program has its rules and is found from its date on. -/
def Evaluable (fixture : Fixture) (store : Store schema) : Prop :=
  ∃ version, IsFixtureVersion fixture store version ∧ version.status = .active ∧
    version.effectiveFrom = fixture.effectiveFrom ∧ Carries fixture store version ∧
    ∀ requestedAt, fixture.effectiveFrom ≤ requestedAt →
      getActiveProgramVersion (assessedTables store) version.programId requestedAt = some version

/-- The foreign keys from programs to countries and from versions to programs. -/
structure Linked (store : Store schema) : Prop where
  program : ∀ program ∈ store.rows .programs, program.countryId ∈ store.ids .countries
  version : ∀ version ∈ store.rows .programVersions, version.programId ∈ store.ids .programs

structure Sound (store : Store schema) : Prop where
  unique : store.PrimaryKeys
  linked : Linked store

variable {store after : Store schema}

theorem Linked.step {table : Table} {op : Upsert schema table} {id : UUID}
    (linked : Linked store) (step : op.Step store after id) : Linked after where
  program := by
    intro program programMem
    apply step.grows.ids_subset
    rcases step.key_stored_or_fits programMem with ⟨old, oldMem, sameKey⟩ | fits
    · rw [show program.countryId = old.countryId from congrArg Prod.fst sameKey]
      exact linked.program old oldMem
    · exact fits.2
  version := by
    intro version versionMem
    apply step.grows.ids_subset
    rcases step.key_stored_or_fits versionMem with ⟨old, oldMem, sameKey⟩ | fits
    · rw [show version.programId = old.programId from congrArg Prod.fst sameKey]
      exact linked.version old oldMem
    · exact fits.2.1

theorem Sound.step {table : Table} {op : Upsert schema table} {id : UUID} (sound : Sound store)
    (step : op.Step store after id) : Sound after :=
  ⟨step.primaryKeys sound.unique, sound.linked.step step⟩

/-- A version that was there belonged to the program that it belongs to later. -/
theorem IsFixtureVersion.before {fixture : Fixture} {version earlier : ProgramVersion}
    (soundBefore : Sound store) (soundAfter : Sound after) (grows : Grows store after)
    (isVersion : IsFixtureVersion fixture after version)
    (earlierMem : earlier ∈ store.rows .programVersions)
    (sameProgram : earlier.programId = version.programId) :
    IsFixtureVersion fixture store earlier := by
  rcases isVersion with ⟨-, program, ⟨programMem, code, country, countryMem, countryCode,
    ofCountry⟩, ofProgram⟩
  rcases List.mem_map.mp (soundBefore.linked.version earlier earlierMem) with
    ⟨first, firstMem, firstId⟩
  rcases grows.row .programs first firstMem with ⟨later, laterMem, laterId, laterKey⟩
  rcases soundAfter.unique.eq_of_id_eq laterMem programMem
    (laterId.trans (firstId.trans (sameProgram.trans ofProgram.symm))) with rfl
  have firstCode : first.code = later.code := (congrArg Prod.snd laterKey).symm
  have firstCountry : first.countryId = later.countryId := (congrArg Prod.fst laterKey).symm
  rcases List.mem_map.mp (soundBefore.linked.program first firstMem) with
    ⟨home, homeMem, homeId⟩
  rcases grows.row .countries home homeMem with ⟨homeLater, homeLaterMem, homeLaterId, homeKey⟩
  rcases soundAfter.unique.eq_of_id_eq homeLaterMem countryMem
    (homeLaterId.trans (homeId.trans (firstCountry.trans ofCountry.symm))) with rfl
  have homeCode : home.code = homeLater.code := homeKey.symm
  exact ⟨earlierMem, first, ⟨firstMem, firstCode.trans code, home, homeMem,
    homeCode.trans countryCode, homeId⟩, firstId⟩

variable {catalog : List CatalogCountry} {start : Store schema} {draw : Store schema → NewRow}

/-- The code of a program that the catalogue lists. -/
def ListedCode (catalog : List CatalogCountry) (code : String) : Prop :=
  ∃ country ∈ catalog, ∃ program ∈ country.programs, program.code = code

/-- The version was there at the start with the same status, or it is a draft of a program with a
listed code. -/
def Traced (catalog : List CatalogCountry) (start store : Store schema)
    (version : ProgramVersion) : Prop :=
  (∃ earlier ∈ start.rows .programVersions, earlier.id = version.id ∧
    earlier.programId = version.programId ∧ earlier.status = version.status) ∨
  (version.status = .draft ∧ ∃ program ∈ store.rows .programs,
    program.id = version.programId ∧ ListedCode catalog program.code)

theorem Traced.grow {version : ProgramVersion} (traced : Traced catalog start store version)
    (grows : Grows store after) : Traced catalog start after version := by
  rcases traced with earlier | ⟨draft, program, programMem, ofProgram, listed⟩
  · exact Or.inl earlier
  · rcases grows.row .programs program programMem with ⟨later, laterMem, laterId, laterKey⟩
    have sameCode : later.code = program.code := congrArg Prod.snd laterKey
    exact Or.inr ⟨draft, later, laterMem, laterId.trans ofProgram, sameCode ▸ listed⟩

def VersionsTraced (catalog : List CatalogCountry) (start store : Store schema) : Prop :=
  ∀ version ∈ store.rows .programVersions, Traced catalog start store version

theorem VersionsTraced.grow (traced : VersionsTraced catalog start store)
    (grows : Grows store after)
    (same : after.rows .programVersions = store.rows .programVersions) :
    VersionsTraced catalog start after := by
  intro version versionMem
  rw [same] at versionMem
  exact (traced version versionMem).grow grows

/-- The program that a catalogue entry stands for is found, and so is its version. -/
def Listed (countryCode programCode version : String) (store : Store schema) : Prop :=
  ∃ countryId, @Store.lookup schema store .countries countryCode = some countryId ∧
    ∃ programId, @Store.lookup schema store .programs (countryId, programCode) = some programId ∧
      ∃ versionId,
        @Store.lookup schema store .programVersions (programId, version) = some versionId

theorem Listed.grow {countryCode programCode version : String}
    (listed : Listed countryCode programCode version store) (grows : Grows store after) :
    Listed countryCode programCode version after := by
  rcases listed with ⟨countryId, country, programId, program, versionId, found⟩
  exact ⟨countryId, grows.lookup country, programId, grows.lookup program, versionId,
    grows.lookup found⟩

/-- While the seeders run, the versions stay traced to the start, and some programs stay found
with their versions. -/
def seedingCourse (catalog : List CatalogCountry) (start : Store schema)
    (listed : List Fixture) : Course schema where
  invariant store := Sound store ∧ Grows start store ∧ VersionsTraced catalog start store ∧
    ∀ fixture ∈ listed, Listed fixture.countryCode fixture.programCode fixture.version store
  moves := Grows
  refl := .refl
  trans := .trans

/-- An upsert into another table keeps the course. -/
theorem keeps_elsewhere {listed : List Fixture} {table : Table} (op : Upsert schema table)
    (elsewhere : table ≠ .programVersions)
    (invariant : (seedingCourse catalog start listed).invariant store) :
    Script.Keeps (seedingCourse catalog start listed) draw (.upsertRow op) store
      fun id after => after.lookup op.key = some id := by
  rcases invariant with ⟨sound, grown, traced, found⟩
  apply Script.keeps_upsertRow
  intro after id step
  refine ⟨⟨sound.step step, grown.trans step.grows,
    traced.grow step.grows (step.rows_of_ne elsewhere.symm), ?_⟩, step.grows, step.lookup_self⟩
  exact fun fixture fixtureMem => (found fixture fixtureMem).grow step.grows

theorem keeps_versionUpsert {listed : List Fixture} {program : CatalogProgram}
    (listedCode : ListedCode catalog program.code) {countryId programId : UUID}
    (isProgram : @Store.lookup schema store .programs (countryId, program.code) = some programId)
    (effectiveFrom : Instant)
    (invariant : (seedingCourse catalog start listed).invariant store) :
    Script.Keeps (seedingCourse catalog start listed) draw
      (.upsertRow (versionUpsert programId program effectiveFrom)) store
      fun id after =>
        @Store.lookup schema after .programVersions (programId, program.version) = some id := by
  rcases invariant with ⟨sound, grown, traced, found⟩
  apply Script.keeps_upsertRow
  intro after id step
  refine ⟨⟨sound.step step, grown.trans step.grows, ?_,
    fun fixture fixtureMem => (found fixture fixtureMem).grow step.grows⟩, step.grows,
    step.lookup_self⟩
  intro version versionMem
  rcases Store.exists_row_of_lookup (step.grows.lookup isProgram) with
    ⟨row, rowMem, rowId, rowKey⟩
  have rowCode : row.code = program.code := congrArg Prod.snd rowKey
  rcases step.mem_cases versionMem with ⟨old, oldMem, rfl⟩ | ⟨fresh, rfl, -⟩
  · have oldTraced := (traced old oldMem).grow step.grows
    -- The update changes only when the version takes effect.
    simp only [overwriteRow, versionUpsert]
    split_ifs
    · exact oldTraced
    · exact oldTraced
  · exact Or.inr ⟨rfl, row, rowMem, rowId, rowCode ▸ listedCode⟩

theorem keeps_seedSource_elsewhere {listed : List Fixture} (source : CatalogSource)
    (country : CatalogCountry) (versionId : UUID)
    (invariant : (seedingCourse catalog start listed).invariant store) :
    Script.Keeps (seedingCourse catalog start listed) draw (seedSource source country versionId)
      store fun _ _ => True := by
  refine Script.keeps_bind (Script.keeps_ofExcept invariant) fun middle seed invariant _ => ?_
  refine Script.keeps_bind (keeps_elsewhere _ (by decide) invariant) ?_
  intro registered sourceId invariant _
  exact (Script.keeps_discard (keeps_elsewhere _ (by decide) invariant)).weaken

/-- The program and its version are found in a country. -/
def ProgramFound (countryId : UUID) (program : CatalogProgram) (store : Store schema) : Prop :=
  ∃ programId, @Store.lookup schema store .programs (countryId, program.code) = some programId ∧
    ∃ versionId,
      @Store.lookup schema store .programVersions (programId, program.version) = some versionId

theorem ProgramFound.grow {countryId : UUID} {program : CatalogProgram}
    (found : ProgramFound countryId program store) (grows : Grows store after) :
    ProgramFound countryId program after := by
  rcases found with ⟨programId, isProgram, versionId, isVersion⟩
  exact ⟨programId, grows.lookup isProgram, versionId, grows.lookup isVersion⟩

theorem keeps_seedProgramVersionAndSources_found {listed : List Fixture} (country : CatalogCountry)
    {program : CatalogProgram} (listedCode : ListedCode catalog program.code)
    {countryId programId : UUID}
    (isProgram : @Store.lookup schema store .programs (countryId, program.code) = some programId)
    (effectiveFrom : Instant)
    (invariant : (seedingCourse catalog start listed).invariant store) :
    Script.Keeps (seedingCourse catalog start listed) draw
      (seedProgramVersionAndSources programId country program effectiveFrom) store
      fun _ after => ProgramFound countryId program after := by
  have versioned : Script.Keeps (seedingCourse catalog start listed) draw
      (.upsertRow (versionUpsert programId program effectiveFrom)) store
      fun _ after => ProgramFound countryId program after :=
    Script.Keeps.mono (keeps_versionUpsert listedCode isProgram effectiveFrom invariant)
      fun versionId after moved isVersion =>
        ⟨programId, moved.lookup isProgram, versionId, isVersion⟩
  refine Script.keeps_bind versioned fun middle versionId invariant found => ?_
  have sources : Script.Keeps (seedingCourse catalog start listed) draw
      (program.sources.forM fun source => seedSource source country versionId) middle
      fun _ _ => True :=
    Script.keeps_loop invariant fun source _ before invariant =>
      keeps_seedSource_elsewhere source country versionId invariant
  have stillFound := Script.Keeps.mono sources fun _ after moved _ => found.grow moved
  exact Script.keeps_bind stillFound fun after _ invariant found =>
    Script.keeps_pure invariant found

theorem keeps_seedProgramsForCountry_found {listed : List Fixture} {country : CatalogCountry}
    (countryMem : country ∈ catalog) (countryId : UUID) (effectiveFrom : Instant)
    (invariant : (seedingCourse catalog start listed).invariant store) :
    Script.Keeps (seedingCourse catalog start listed) draw
      (seedProgramsForCountry countryId country effectiveFrom) store
      fun _ after => ∀ program ∈ country.programs, ProgramFound countryId program after := by
  apply Script.keeps_forM invariant
  · intro program _ before after found moved
    exact found.grow moved
  · intro program programMem before invariant
    have listedCode : ListedCode catalog program.code :=
      ⟨country, countryMem, program, programMem, rfl⟩
    refine Script.keeps_bind (keeps_elsewhere (programUpsert countryId program) (by decide)
      invariant) fun middle programId invariant isProgram => ?_
    refine Script.Keeps.mono (Script.keeps_discard
      (keeps_seedProgramVersionAndSources_found country listedCode isProgram effectiveFrom
        invariant)) ?_
    rintro _ after _ ⟨_, found⟩
    exact found

/-- What seeding a country of the catalogue makes sure is found. -/
def CountryFound (country : CatalogCountry) (store : Store schema) : Prop :=
  ∃ countryId, @Store.lookup schema store .countries country.code = some countryId ∧
    ∀ program ∈ country.programs, ProgramFound countryId program store

theorem CountryFound.grow {country : CatalogCountry} (found : CountryFound country store)
    (grows : Grows store after) : CountryFound country after := by
  rcases found with ⟨countryId, isCountry, programs⟩
  exact ⟨countryId, grows.lookup isCountry, fun program programMem =>
    (programs program programMem).grow grows⟩

theorem keeps_seedMvpCatalog_found {listed : List Fixture} (effectiveFrom : Instant)
    (invariant : (seedingCourse catalog start listed).invariant store) :
    Script.Keeps (seedingCourse catalog start listed) draw (seedMvpCatalog catalog effectiveFrom)
      store fun _ after => ∀ country ∈ catalog, CountryFound country after := by
  apply Script.keeps_forM invariant
  · intro country _ before after found moved
    exact found.grow moved
  · intro country countryMem before invariant
    refine Script.keeps_bind (keeps_elsewhere (countryUpsert country) (by decide) invariant)
      fun middle countryId invariant isCountry => ?_
    refine Script.Keeps.mono
      (keeps_seedProgramsForCountry_found countryMem countryId effectiveFrom invariant) ?_
    intro _ after moved programs
    exact ⟨countryId, moved.lookup isCountry, programs⟩

/-- An upsert that only creates does nothing where its row is found. -/
theorem keeps_existing {listed : List Fixture} {table : Table} {op : Upsert schema table}
    (onlyCreates : op.values = none) {stored : UUID} (found : store.lookup op.key = some stored)
    (invariant : (seedingCourse catalog start listed).invariant store) :
    Script.Keeps (seedingCourse catalog start listed) draw (.upsertRow op) store
      fun id after => id = stored ∧ after = store := by
  apply Script.keeps_upsertRow
  intro after id step
  rcases step.eq_of_lookup onlyCreates found with ⟨rfl, rfl⟩
  exact ⟨invariant, .refl _, rfl, rfl⟩

theorem keeps_seedRuleGroup {listed : List Fixture} (versionId : UUID) (group : FixtureGroup)
    (invariant : (seedingCourse catalog start listed).invariant store) :
    Script.Keeps (seedingCourse catalog start listed) draw (seedRuleGroup versionId group) store
      fun _ _ => True := by
  refine Script.keeps_bind (keeps_elsewhere _ (by decide) invariant) ?_
  intro grouped groupId invariant _
  have conditions : Script.Keeps (seedingCourse catalog start listed) draw
      (group.conditions.forM fun condition => do
        let _ ← .upsertRow (ruleConditionUpsert groupId condition)) grouped fun _ _ => True :=
    Script.keeps_loop invariant fun condition _ before invariant =>
      (Script.keeps_discard (keeps_elsewhere _ (by decide) invariant)).weaken
  refine Script.keeps_bind conditions fun conditioned _ invariant _ => ?_
  exact Script.keeps_loop invariant fun outcome _ before invariant =>
    (Script.keeps_discard (keeps_elsewhere _ (by decide) invariant)).weaken

/-- Where every fixture finds its version, seeding the fixtures creates none. -/
theorem keeps_seedFixtures {listed : List Fixture}
    (invariant : (seedingCourse catalog start listed).invariant store) :
    Script.Keeps (seedingCourse catalog start listed) draw (seedFixtures listed) store
      fun _ _ => True := by
  apply Script.keeps_loop invariant
  intro fixture fixtureMem before invariant
  rcases invariant.2.2.2 fixture fixtureMem with
    ⟨countryId, isCountry, programId, isProgram, versionId, isVersion⟩
  refine Script.keeps_bind (keeps_existing rfl isCountry invariant) ?_
  rintro _ _ invariant ⟨rfl, rfl⟩
  refine Script.keeps_bind (keeps_existing rfl isProgram invariant) ?_
  rintro _ _ invariant ⟨rfl, rfl⟩
  refine Script.keeps_bind (keeps_existing rfl isVersion invariant) ?_
  rintro _ _ invariant ⟨rfl, rfl⟩
  exact Script.keeps_loop invariant fun group _ before invariant =>
    keeps_seedRuleGroup _ group invariant

/-- The catalogue lists the program of the fixture with its version. -/
def ListsFixture (catalog : List CatalogCountry) (fixture : Fixture) : Prop :=
  ∃ country ∈ catalog, country.code = fixture.countryCode ∧
    ∃ program ∈ country.programs, program.code = fixture.programCode ∧
      program.version = fixture.version

theorem traced_seedMvpCatalog {effectiveFrom : Instant} (sound : Sound store)
    (completed : (seedMvpCatalog catalog effectiveFrom).run draw store = .ok (after, ())) :
    Sound after ∧ Grows store after ∧ VersionsTraced catalog store after ∧
      ∀ fixture, ListsFixture catalog fixture →
        Listed fixture.countryCode fixture.programCode fixture.version after := by
  have tracedNow : VersionsTraced catalog store store :=
    fun version versionMem => Or.inl ⟨version, versionMem, rfl, rfl, rfl⟩
  have invariant : (seedingCourse catalog store []).invariant store :=
    ⟨sound, .refl store, tracedNow, by simp⟩
  rcases keeps_seedMvpCatalog_found effectiveFrom invariant after () completed with
    ⟨⟨soundAfter, grows, traced, -⟩, -, found⟩
  refine ⟨soundAfter, grows, traced, ?_⟩
  rintro fixture ⟨country, countryMem, countryCode, program, programMem, programCode, version⟩
  rcases found country countryMem with ⟨countryId, isCountry, programs⟩
  rcases programs program programMem with ⟨programId, isProgram, versionId, isVersion⟩
  rw [← countryCode, ← programCode, ← version]
  exact ⟨countryId, isCountry, programId, isProgram, versionId, isVersion⟩

/-- A version of the program of a fixture was one before with the same status, or it is a draft
and the catalogue lists the code of the program. -/
theorem IsFixtureVersion.traced {fixture : Fixture} {version : ProgramVersion}
    (soundBefore : Sound store) (soundAfter : Sound after) (grows : Grows store after)
    (traced : VersionsTraced catalog store after)
    (isVersion : IsFixtureVersion fixture after version) :
    (∃ earlier, IsFixtureVersion fixture store earlier ∧ earlier.id = version.id ∧
      earlier.status = version.status) ∨
    (version.status = .draft ∧ ListedCode catalog fixture.programCode) := by
  rcases traced version isVersion.1 with
    ⟨earlier, earlierMem, sameId, sameProgram, sameStatus⟩ |
      ⟨draft, owner, ownerMem, ofOwner, ownerListed⟩
  · exact Or.inl ⟨earlier, isVersion.before soundBefore soundAfter grows earlierMem sameProgram,
      sameId, sameStatus⟩
  · rcases isVersion.2 with ⟨program, ⟨programMem, code, -⟩, ofProgram⟩
    rcases soundAfter.unique.eq_of_id_eq ownerMem programMem (ofOwner.trans ofProgram.symm) with rfl
    exact Or.inr ⟨draft, code ▸ ownerListed⟩

variable [UnicodeData]

/-- If the catalogue lists every fixture that is selected, a run creates drafts only. -/
theorem traced_runSeed {data : SeedData}
    (lists : ∀ fixture ∈ selectedFixtures data.fixtures data.fixtureCountryCodes,
      ListsFixture data.catalog fixture) (sound : Sound store)
    (completed : (runSeed data).run draw store = .ok (after, ())) :
    Sound after ∧ Grows store after ∧ VersionsTraced data.catalog store after := by
  rw [runSeed, Script.run_bind] at completed
  rcases bind_eq_ok_iff.mp completed with ⟨⟨middle, _⟩, catalogRan, rulesRan⟩
  rcases traced_seedMvpCatalog sound catalogRan with ⟨soundMiddle, grown, traced, found⟩
  rw [seedForCountries] at rulesRan
  split_ifs at rulesRan
  · rcases Prod.mk.inj (Except.ok.inj rulesRan) with ⟨rfl, -⟩
    exact ⟨soundMiddle, grown, traced⟩
  · have invariant : (seedingCourse data.catalog store
        (selectedFixtures data.fixtures data.fixtureCountryCodes)).invariant middle :=
      ⟨soundMiddle, grown, traced,
        fun fixture fixtureMem => found fixture (lists fixture fixtureMem)⟩
    rcases keeps_seedFixtures invariant after () rulesRan with
      ⟨⟨soundAfter, grows, tracedAfter, -⟩, -⟩
    exact ⟨soundAfter, grows, tracedAfter⟩

end SeededVersions

/-- What `str.upper` does on ASCII. -/
def AsciiUpper [UnicodeData] : Prop :=
  ∀ text : String, (∀ char ∈ text.toList, char.toNat < 128) →
    UnicodeData.upper text = String.ofList (text.toList.map Char.toUpper)

instance (catalog : List CatalogCountry) (fixture : Fixture) :
    Decidable (ListsFixture catalog fixture) :=
  inferInstanceAs (Decidable (∃ country ∈ catalog, country.code = fixture.countryCode ∧
    ∃ program ∈ country.programs, program.code = fixture.programCode ∧
      program.version = fixture.version))

instance (catalog : List CatalogCountry) (code : String) : Decidable (ListedCode catalog code) :=
  inferInstanceAs (Decidable (∃ country ∈ catalog, ∃ program ∈ country.programs,
    program.code = code))

theorem listsFixture_mvp : ∀ entry ∈ mvpRuleFixtures, entry.1 ∈ mvpRuleFixtureCountryCodes →
    ListsFixture mvpCountryCatalog entry.2 := by
  decide +kernel

/-- One of the fixtures is about a program that no catalogue entry has the code of. -/
theorem exists_unlisted_mvp :
    ∃ entry ∈ mvpRuleFixtures, ¬ ListedCode mvpCountryCatalog entry.2.programCode := by
  decide +kernel

theorem upper_code [UnicodeData] (ascii : AsciiUpper) {code : String}
    (codeMem : code ∈ mvpRuleFixtures.map (·.1) ∨ code ∈ mvpRuleFixtureCountryCodes) :
    UnicodeData.upper code = code := by
  have unchanged : ∀ code ∈ mvpRuleFixtures.map (·.1) ++ mvpRuleFixtureCountryCodes,
      (code.toList.all fun char => char.toNat < 128) ∧
        String.ofList (code.toList.map Char.toUpper) = code := by
    decide +kernel
  rcases unchanged code (List.mem_append.mpr codeMem) with ⟨inAscii, same⟩
  rw [ascii code (by simpa using inAscii), same]

theorem listsFixture_selected [UnicodeData] (ascii : AsciiUpper) :
    ∀ fixture ∈ selectedFixtures mvpSeedData.fixtures mvpSeedData.fixtureCountryCodes,
      ListsFixture mvpSeedData.catalog fixture := by
  intro fixture fixtureMem
  rcases List.mem_map.mp fixtureMem with ⟨entry, entryMem, rfl⟩
  rcases List.mem_filter.mp entryMem with ⟨entryMem, selected⟩
  rcases List.mem_map.mp (of_decide_eq_true selected) with ⟨code, codeMem, same⟩
  rw [upper_code ascii (Or.inr codeMem),
    upper_code ascii (Or.inl (List.mem_map_of_mem entryMem))] at same
  exact listsFixture_mvp entry entryMem (same ▸ codeMem)

section MvpRuns

variable [ColumnTypes] {store after : Store schema}

/-- A run that traces its versions gives none to a program that the catalogue does not list. -/
theorem noVersion_of_traced {entry : String × Fixture}
    (unlisted : ¬ ListedCode mvpCountryCatalog entry.2.programCode)
    (none : ∀ version, ¬ IsFixtureVersion entry.2 store version) (soundBefore : Sound store)
    (soundAfter : Sound after) (grows : Grows store after)
    (traced : VersionsTraced mvpCountryCatalog store after) (version : ProgramVersion) :
    ¬ IsFixtureVersion entry.2 after version := by
  intro isVersion
  rcases isVersion.traced soundBefore soundAfter grows traced with
    ⟨earlier, isEarlier, -⟩ | ⟨-, listed⟩
  · exact none earlier isEarlier
  · exact unlisted listed

variable [UnicodeData]

/-- The databases whose versions of the programs with fixtures all come from runs of
`seed_initial_data`, completed or broken off after the catalogue. What else happens to the
database may change these versions, but adds none. -/
inductive Seeded : Store schema → Prop
  | unseeded {store : Store schema} (sound : Sound store)
      (none : ∀ entry ∈ mvpRuleFixtures, ∀ version, ¬ IsFixtureVersion entry.2 store version) :
      Seeded store
  | ran {store after : Store schema} {draw : Store schema → NewRow} (seeded : Seeded store)
      (completed : (runSeed mvpSeedData).run draw store = .ok (after, ())) : Seeded after
  | brokenOff {store after : Store schema} {draw : Store schema → NewRow} (seeded : Seeded store)
      (completed : (seedMvpCatalog mvpSeedData.catalog mvpSeedData.effectiveFrom).run draw store =
        .ok (after, ())) : Seeded after
  | changed {store after : Store schema} (seeded : Seeded store) (sound : Sound after)
      (kept : ∀ entry ∈ mvpRuleFixtures, ∀ version, IsFixtureVersion entry.2 after version →
        ∃ earlier, IsFixtureVersion entry.2 store earlier ∧ earlier.id = version.id) :
      Seeded after

/-- The invariant of these databases: programs that the catalogue does not list have no version. -/
theorem Seeded.sound_and_unlisted (ascii : AsciiUpper) (seeded : Seeded store) :
    Sound store ∧ ∀ entry ∈ mvpRuleFixtures, ¬ ListedCode mvpCountryCatalog entry.2.programCode →
      ∀ version, ¬ IsFixtureVersion entry.2 store version := by
  induction seeded with
  | unseeded sound none => exact ⟨sound, fun entry entryMem _ => none entry entryMem⟩
  | ran _ completed ih =>
      rcases traced_runSeed (listsFixture_selected ascii) ih.1 completed with
        ⟨soundAfter, grows, traced⟩
      exact ⟨soundAfter, fun entry entryMem unlisted =>
        noVersion_of_traced unlisted (ih.2 entry entryMem unlisted) ih.1 soundAfter grows traced⟩
  | brokenOff _ completed ih =>
      rcases traced_seedMvpCatalog ih.1 completed with ⟨soundAfter, grows, traced, -⟩
      exact ⟨soundAfter, fun entry entryMem unlisted =>
        noVersion_of_traced unlisted (ih.2 entry entryMem unlisted) ih.1 soundAfter grows traced⟩
  | changed _ sound kept ih =>
      refine ⟨sound, fun entry entryMem unlisted version isVersion => ?_⟩
      rcases kept entry entryMem version isVersion with ⟨earlier, isEarlier, -⟩
      exact ih.2 entry entryMem unlisted earlier isEarlier

/-- A version of a program with a fixture that is active after a run was active before it. -/
theorem active_before (ascii : AsciiUpper) {draw : Store schema → NewRow} (sound : Sound store)
    (completed : (runSeed mvpSeedData).run draw store = .ok (after, ())) {fixture : Fixture}
    {version : ProgramVersion} (isVersion : IsFixtureVersion fixture after version)
    (active : version.status = .active) :
    ∃ earlier, IsFixtureVersion fixture store earlier ∧ earlier.id = version.id ∧
      earlier.status = .active := by
  rcases traced_runSeed (listsFixture_selected ascii) sound completed with
    ⟨soundAfter, grows, traced⟩
  rcases isVersion.traced sound soundAfter grows traced with
    ⟨earlier, isEarlier, sameId, sameStatus⟩ | ⟨draft, -⟩
  · exact ⟨earlier, isEarlier, sameId, sameStatus.trans active⟩
  · exact absurd (draft.symm.trans active) (by simp)

/-- No run makes all programs with fixtures evaluable, and a program that is evaluable after a run
had an active version before it. -/
theorem runSeed_leaves_unevaluable (ascii : AsciiUpper) (draw : Store schema → NewRow)
    (seeded : Seeded store) (completed : (runSeed mvpSeedData).run draw store = .ok (after, ())) :
    (¬ ∀ entry ∈ mvpRuleFixtures, Evaluable entry.2 after) ∧
      ∀ entry ∈ mvpRuleFixtures, Evaluable entry.2 after →
        ∃ earlier, IsFixtureVersion entry.2 store earlier ∧ earlier.status = .active := by
  have invariantAfter := (Seeded.ran seeded completed).sound_and_unlisted ascii
  have sound := (seeded.sound_and_unlisted ascii).1
  constructor
  · intro evaluable
    rcases exists_unlisted_mvp with ⟨entry, entryMem, unlisted⟩
    rcases evaluable entry entryMem with ⟨version, isVersion, -⟩
    exact invariantAfter.2 entry entryMem unlisted version isVersion
  · rintro entry - ⟨version, isVersion, active, -⟩
    rcases active_before ascii sound completed isVersion active with
      ⟨earlier, isEarlier, -, wasActive⟩
    exact ⟨earlier, isEarlier, wasActive⟩

end MvpRuns

section FirstRun

local instance firstRunColumns : ColumnTypes := .any

local instance firstRunUnicode : UnicodeData := .ascii

theorem asciiUpper_ascii : AsciiUpper := fun _ _ => rfl

theorem sound_emptyStore : Sound emptyStore where
  unique _ := List.nodup_nil
  linked := ⟨by simp [emptyStore], by simp [emptyStore]⟩

theorem seeded_emptyStore : Seeded emptyStore :=
  .unseeded sound_emptyStore fun _ _ _ isVersion => by
    simpa [emptyStore] using isVersion.1

theorem runSeed_leaves_unevaluable_sample :
    ∃ after, (runSeed mvpSeedData).run countingDraw emptyStore = .ok (after, ()) ∧
      ¬ ∀ entry ∈ mvpRuleFixtures, Evaluable entry.2 after := by
  rcases runSeed_emptyStore with ⟨after, completed⟩
  exact ⟨after, completed, (runSeed_leaves_unevaluable asciiUpper_ascii countingDraw
    seeded_emptyStore completed).1⟩

/-- After a run on an empty database no assessment of a program with a fixture finds a version. -/
theorem first_run_leaves_no_active_version :
    Seeded emptyStore ∧ ∃ after,
      (runSeed mvpSeedData).run countingDraw emptyStore = .ok (after, ()) ∧
        ∀ entry ∈ mvpRuleFixtures, ¬ Evaluable entry.2 after ∧
          ∀ program, IsFixtureProgram entry.2 after program → ∀ requestedAt,
            getActiveProgramVersion (assessedTables after) program.id requestedAt = none := by
  rcases runSeed_emptyStore with ⟨after, completed⟩
  have noneActive (fixture : Fixture) (version : ProgramVersion)
      (isVersion : IsFixtureVersion fixture after version) : version.status ≠ .active := by
    intro active
    rcases active_before asciiUpper_ascii sound_emptyStore completed isVersion active with
      ⟨earlier, isEarlier, -⟩
    simpa [emptyStore] using isEarlier.1
  refine ⟨seeded_emptyStore, after, completed, fun entry _ => ⟨?_, ?_⟩⟩
  · rintro ⟨version, isVersion, active, -⟩
    exact noneActive entry.2 version isVersion active
  · intro program isProgram requestedAt
    apply Option.eq_none_iff_forall_ne_some.mpr
    intro version found
    have selected := List.mem_filter.mp (Sorting.mem_of_head?_sortBy found)
    have matching := of_decide_eq_true selected.2
    exact noneActive entry.2 version ⟨selected.1, program, isProgram, matching.1.symm⟩ matching.2.1

end FirstRun

end ImigrAI.Scripts
