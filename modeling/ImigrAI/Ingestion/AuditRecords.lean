import ImigrAI.Foundations.Runs
import ImigrAI.ImmigrationRules.ActiveVersions
import ImigrAI.Ingestion.Publisher

/-!
# The audit record of a collection

Calls of `publish` one after the other, each in a transaction of its own. A call that publishes
no version stores its document for the latest version of the program, which may have a document
from the same URL already. Then the unique constraint refuses it and no record is left, so the
second collection of an unchanged source leaves none.
-/

namespace ImigrAI.Ingestion

open Python ImmigrationRules Fallible Rows Runs Sorting

/-- One call of `publish`. -/
structure Publication where
  ids : PublicationIds
  times : PublicationTimes
  request : PublishRequest

/-- The new ids are those of no stored row. -/
structure NewIds (tables : Tables) (ids : PublicationIds) : Prop where
  country : ids.country ∉ tables.countries.map (·.id)
  program : ids.program ∉ tables.programs.map (·.id)
  sourceDocument : ids.sourceDocument ∉ tables.sourceDocuments.map (·.id)
  sourceExtraction : ids.sourceExtraction ∉ tables.sourceExtractions.map (·.id)

section Calls

variable [UnicodeData]

/-- The transaction of a call, rolled back if it raises. -/
def publishStep (db : Database) (call : Publication) : Database :=
  match publish db call.ids call.times call.request with
  | .ok published => published.1
  | .error _ => db

/-- The call succeeds and stores one document from the source and one extraction of it. -/
def Records (db : Database) (call : Publication) : Prop :=
  ∃ published result, publish db call.ids call.times call.request = .ok (published, result) ∧
    ∃ document extraction,
      published.sourceDocuments = db.sourceDocuments ++ [document] ∧
      published.sourceExtractions = db.sourceExtractions ++ [extraction] ∧
      document.sourceUrl = call.request.payload.sourceUrl ∧
      extraction.sourceDocumentId = document.id

/-- Every call that publishes no version leaves an audit record. -/
def LeavesRecords (db : Database) (calls : List Publication) : Prop :=
  Along publishStep (fun before call => call.request.publishes = false → Records before call) db
    calls

/-- No document of the latest version of the program is from the URL. -/
def UrlFree (tables : Tables) (payload : NormalizedProgramPayload) : Prop :=
  ∀ programId, PublishesTo tables payload programId →
    ∀ version, getLatestProgramVersion tables programId = some version →
      ∀ document ∈ tables.sourceDocuments, document.programVersionId = some version.id →
        document.sourceUrl ≠ payload.sourceUrl

/-- The country is stored under the code in upper case, or nothing is stored under the code. -/
def CountryAvailable (tables : Tables) (code : String) : Prop :=
  UnicodeData.upper code ∈ tables.countries.map (·.code) ∨
    code ∉ tables.countries.map (·.code)

/-- What a call that publishes no version needs of the stored rows and of its payload. -/
structure Recordable (tables : Tables) (payload : NormalizedProgramPayload) : Prop where
  urlFree : UrlFree tables payload
  country : CountryAvailable tables payload.countryCode
  confidence : (confidenceColumn payload.confidenceScore).isSome

end Calls

section Rows

variable {tables : Tables}

theorem exists_flush_iff : (∃ db, flush tables = .ok db) ↔ Consistent tables := by
  constructor
  · rintro ⟨db, flushed⟩
    rw [← flush_eq_ok_iff.mp flushed]
    exact db.consistent
  · intro consistent
    exact ⟨⟨tables, consistent⟩, flush_eq_ok_iff.mpr rfl⟩

theorem consistent_addCountry_iff (consistent : Consistent tables) {country : Country}
    (newId : country.id ∉ tables.countries.map (·.id)) :
    Consistent { tables with countries := tables.countries ++ [country] } ↔
      country.code ∉ tables.countries.map (·.code) := by
  constructor
  · intro added
    exact (nodup_map_append_singleton.mp added.catalogue.countryCodes).1
  · intro newCode
    refine ⟨{ consistent.catalogue with
      countryIds := ?_
      countryCodes := ?_
      programCountries := ?_ }, { consistent.rules with }, { consistent.documents with }⟩
    · exact nodup_map_append_singleton.mpr ⟨newId, consistent.catalogue.countryIds⟩
    · exact nodup_map_append_singleton.mpr ⟨newCode, consistent.catalogue.countryCodes⟩
    · intro program programMem
      rw [List.map_append]
      exact List.mem_append_left _ (consistent.catalogue.programCountries program programMem)

theorem consistent_addProgram (consistent : Consistent tables) {program : ImmigrationProgram}
    (newId : program.id ∉ tables.programs.map (·.id))
    (newCode : ∀ other ∈ tables.programs,
      ¬ (other.countryId = program.countryId ∧ other.code = program.code))
    (country : program.countryId ∈ tables.countries.map (·.id)) :
    Consistent { tables with programs := tables.programs ++ [program] } := by
  refine ⟨{ consistent.catalogue with
    programIds := ?_
    programCodes := ?_
    programCountries := ?_
    versionPrograms := ?_ }, { consistent.rules with }, { consistent.documents with }⟩
  · exact nodup_map_append_singleton.mpr ⟨newId, consistent.catalogue.programIds⟩
  · refine nodup_map_append_singleton.mpr ⟨?_, consistent.catalogue.programCodes⟩
    intro stored
    rcases List.mem_map.mp stored with ⟨other, otherMem, same⟩
    exact newCode other otherMem (Prod.mk.inj same)
  · intro other otherMem
    rcases List.mem_append.mp otherMem with old | new
    · exact consistent.catalogue.programCountries other old
    · rw [List.mem_singleton.mp new]
      exact country
  · intro version versionMem
    rw [List.map_append]
    exact List.mem_append_left _ (consistent.catalogue.versionPrograms version versionMem)

/-- A new document is stored if its version has no document from the same URL. -/
theorem consistent_addDocument_iff (consistent : Consistent tables) {document : SourceDocument}
    (newId : document.id ∉ tables.sourceDocuments.map (·.id))
    (refers : Refers (tables.versions.map (·.id)) document.programVersionId) :
    Consistent { tables with sourceDocuments := tables.sourceDocuments ++ [document] } ↔
      ∀ versionId, document.programVersionId = some versionId →
        ∀ other ∈ tables.sourceDocuments, other.programVersionId = some versionId →
          other.sourceUrl ≠ document.sourceUrl := by
  constructor
  · intro added versionId ofVersion other otherMem otherOfVersion sameUrl
    apply (nodup_filterMap_append_singleton.mp added.documents.documentUrls).1
      (versionId, document.sourceUrl) _ other otherMem
    · rw [otherOfVersion, sameUrl]
      rfl
    · rw [ofVersion]
      rfl
  · intro free
    refine ⟨{ consistent.catalogue with }, { consistent.rules with }, { consistent.documents with
      documentIds := ?_
      documentUrls := ?_
      documentVersions := ?_
      extractionDocuments := ?_ }⟩
    · exact nodup_map_append_singleton.mpr ⟨newId, consistent.documents.documentIds⟩
    · refine nodup_filterMap_append_singleton.mpr ⟨?_, consistent.documents.documentUrls⟩
      rintro ⟨versionId, url⟩ stored other otherMem otherStored
      rcases Option.map_eq_some_iff.mp stored with ⟨_, ofVersion, same⟩
      rcases Option.map_eq_some_iff.mp otherStored with ⟨_, otherOfVersion, otherSame⟩
      cases same
      rcases Prod.mk.inj otherSame with ⟨rfl, sameUrl⟩
      exact free _ ofVersion other otherMem otherOfVersion sameUrl
    · intro other otherMem
      rcases List.mem_append.mp otherMem with old | new
      · exact consistent.documents.documentVersions other old
      · rw [List.mem_singleton.mp new]
        exact refers
    · intro extraction extractionMem
      rw [List.map_append]
      exact List.mem_append_left _
        (consistent.documents.extractionDocuments extraction extractionMem)

theorem consistent_addExtraction (consistent : Consistent tables) {extraction : SourceExtraction}
    (newId : extraction.id ∉ tables.sourceExtractions.map (·.id))
    (first : ∀ other ∈ tables.sourceExtractions,
      other.sourceDocumentId ≠ extraction.sourceDocumentId)
    (document : extraction.sourceDocumentId ∈ tables.sourceDocuments.map (·.id)) :
    Consistent { tables with sourceExtractions := tables.sourceExtractions ++ [extraction] } := by
  refine ⟨{ consistent.catalogue with }, { consistent.rules with }, { consistent.documents with
    extractionIds := ?_
    extractionVersions := ?_
    extractionDocuments := ?_ }⟩
  · exact nodup_map_append_singleton.mpr ⟨newId, consistent.documents.extractionIds⟩
  · refine nodup_map_append_singleton.mpr ⟨?_, consistent.documents.extractionVersions⟩
    intro stored
    rcases List.mem_map.mp stored with ⟨other, otherMem, same⟩
    exact first other otherMem (Prod.mk.inj same).1
  · intro other otherMem
    rcases List.mem_append.mp otherMem with old | new
    · exact consistent.documents.extractionDocuments other old
    · rw [List.mem_singleton.mp new]
      exact document

/-- A lookup in a unique column does not raise. -/
theorem exists_lookup {Row Column : Type} [DecidableEq Column] {rows : List Row}
    {column : Row → Column} (unique : (rows.map column).Nodup) (sought : Column) :
    ∃ found, scalarOneOrNone (rows.filter fun row => column row = sought) = .ok found := by
  by_cases stored : ∃ row ∈ rows, column row = sought
  · rcases stored with ⟨row, rowMem, rfl⟩
    exact ⟨some row, scalarOneOrNone_filter_key unique rowMem⟩
  · refine ⟨none, scalarOneOrNone_filter_eq_none.mpr ?_⟩
    intro row rowMem selected
    exact stored ⟨row, rowMem, selected⟩

end Rows

section Target

variable {db : Database} {ids : PublicationIds}

/-- The lookup of a program does not raise. -/
theorem exists_program_lookup (countryId : UUID) (code : String) :
    ∃ found, getProgramByCountryAndCode db.toTables countryId code = .ok found := by
  rcases exists_lookup db.consistent.catalogue.programCodes (countryId, code) with
    ⟨found, lookup⟩
  simp only [Prod.mk.injEq] at lookup
  exact ⟨found, lookup⟩

theorem exists_publicationProgram {request : PublishRequest} {countryId : UUID}
    (country : countryId ∈ db.countries.map (·.id))
    (newId : ids.program ∉ db.programs.map (·.id)) :
    ∃ targeted programId,
      publicationProgram db ids countryId request = .ok (targeted, programId) := by
  rcases @exists_program_lookup db countryId request.payload.programCode with ⟨found, lookup⟩
  cases found with
  | some program => exact ⟨db, program.id, bind_eq_ok_iff.mpr ⟨_, lookup, rfl⟩⟩
  | none =>
      let program : ImmigrationProgram := {
        id := ids.program
        countryId := countryId
        code := request.payload.programCode
        name := request.payload.programName
        description := "Auto-created from source registry (" ++ request.source.sourceKey ++ ")"
        isActive := true }
      have missing := scalarOneOrNone_filter_eq_none.mp lookup
      have consistent : Consistent { db.toTables with programs := db.programs ++ [program] } :=
        consistent_addProgram db.consistent newId missing country
      rcases exists_flush_iff.mpr consistent with ⟨created, sent⟩
      exact ⟨created, ids.program, bind_eq_ok_iff.mpr ⟨none, lookup, bind_eq_ok_iff.mpr
        ⟨created, sent, rfl⟩⟩⟩

variable [UnicodeData]

theorem exists_publicationCountry_iff {payload : NormalizedProgramPayload}
    (newId : ids.country ∉ db.countries.map (·.id)) :
    (∃ named countryId, publicationCountry db ids payload = .ok (named, countryId)) ↔
      CountryAvailable db.toTables payload.countryCode := by
  rcases exists_lookup db.consistent.catalogue.countryCodes
    (UnicodeData.upper payload.countryCode) with ⟨found, lookup⟩
  cases found with
  | some country =>
      apply iff_of_true
      · exact ⟨db, country.id, bind_eq_ok_iff.mpr ⟨_, lookup, rfl⟩⟩
      · rcases scalarOneOrNone_filter_eq_some lookup with ⟨countryMem, coded, -⟩
        exact Or.inl (List.mem_map.mpr ⟨country, countryMem, coded⟩)
  | none =>
      have missing : UnicodeData.upper payload.countryCode ∉ db.countries.map (·.code) := by
        intro stored
        rcases List.mem_map.mp stored with ⟨country, countryMem, coded⟩
        exact scalarOneOrNone_filter_eq_none.mp lookup country countryMem coded
      rw [CountryAvailable, or_iff_right missing]
      rw [← @consistent_addCountry_iff _ db.consistent ⟨ids.country, payload.countryCode,
        payload.countryName⟩ newId, ← exists_flush_iff]
      constructor
      · rintro ⟨named, countryId, naming⟩
        rcases bind_eq_ok_iff.mp naming with ⟨found, again, naming⟩
        cases lookup.symm.trans again
        rcases bind_eq_ok_iff.mp naming with ⟨created, sent, -⟩
        exact ⟨created, sent⟩
      · rintro ⟨created, sent⟩
        exact ⟨created, ids.country, bind_eq_ok_iff.mpr ⟨none, lookup, bind_eq_ok_iff.mpr
          ⟨created, sent, rfl⟩⟩⟩

theorem country_mem_of_publicationCountry {named : Database} {payload : NormalizedProgramPayload}
    {countryId : UUID} (naming : publicationCountry db ids payload = .ok (named, countryId)) :
    countryId ∈ named.countries.map (·.id) := by
  rcases bind_eq_ok_iff.mp naming with ⟨found, lookup, naming⟩
  cases found with
  | some country =>
      cases naming
      exact List.mem_map_of_mem (scalarOneOrNone_filter_eq_some lookup).1
  | none =>
      rcases bind_eq_ok_iff.mp naming with ⟨created, sent, naming⟩
      cases naming
      rw [flush_eq_ok_iff.mp sent]
      simp

theorem exists_target {request : PublishRequest} (newIds : NewIds db.toTables ids)
    (country : CountryAvailable db.toTables request.payload.countryCode) :
    ∃ named countryId targeted programId,
      publicationCountry db ids request.payload = .ok (named, countryId) ∧
        publicationProgram named ids countryId request = .ok (targeted, programId) := by
  rcases (exists_publicationCountry_iff newIds.country).mpr country with ⟨named, countryId, naming⟩
  rcases (publicationCountry_eq_ok naming).1 with ⟨countries, namedTables⟩
  have newProgram : ids.program ∉ named.programs.map (·.id) := by
    rw [namedTables]
    exact newIds.program
  rcases exists_publicationProgram (country_mem_of_publicationCountry naming) newProgram with
    ⟨targeted, programId, targeting⟩
  exact ⟨named, countryId, targeted, programId, naming, targeting⟩

end Target

section Step

variable [UnicodeData] {db named targeted : Database} {ids : PublicationIds}
  {times : PublicationTimes} {request : PublishRequest} {countryId programId : UUID}

omit [UnicodeData] in
theorem latest_mem {tables : Tables} {version : ProgramVersion}
    (latest : getLatestProgramVersion tables programId = some version) :
    version ∈ tables.versions ∧ version.programId = programId := by
  simpa using mem_of_head?_sortBy latest

/-- The document that a call without a new version stores. -/
def idleDocument (db : Database) (ids : PublicationIds) (times : PublicationTimes)
    (programId : UUID) (request : PublishRequest) : SourceDocument :=
  publicationDocument ids times request
    ((getLatestProgramVersion db.toTables programId).map (·.id))

section Targeted

variable (naming : publicationCountry db ids request.payload = .ok (named, countryId))
  (targeting : publicationProgram named ids countryId request = .ok (targeted, programId))

include naming targeting

theorem publishesTo_of_latest {version : ProgramVersion}
    (latest : getLatestProgramVersion db.toTables programId = some version) :
    PublishesTo db.toTables request.payload programId := by
  rcases latest_mem latest with ⟨versionMem, ofProgram⟩
  rcases List.mem_map.mp (db.consistent.catalogue.versionPrograms version versionMem) with
    ⟨program, programMem, same⟩
  have isTarget := same.trans ofProgram
  rw [← isTarget]
  exact ((publicationTarget_eq_ok naming targeting).2 program programMem).mpr isTarget

theorem urlFree_iff_of_target :
    UrlFree db.toTables request.payload ↔
      ∀ version, getLatestProgramVersion db.toTables programId = some version →
        ∀ document ∈ db.sourceDocuments, document.programVersionId = some version.id →
          document.sourceUrl ≠ request.payload.sourceUrl := by
  constructor
  · intro free version latest
    exact free programId (publishesTo_of_latest naming targeting latest) version latest
  · intro free otherId publishesTo
    have stored := publishesTo
    rcases stored with ⟨-, -, -, program, programMem, -, -, rfl⟩
    rw [((publicationTarget_eq_ok naming targeting).2 program programMem).mp publishesTo]
    exact free

/-- The document is stored if the latest version has none from the same URL. -/
theorem consistent_idleDocument_iff
    (newId : ids.sourceDocument ∉ db.sourceDocuments.map (·.id)) :
    Consistent { targeted.toTables with sourceDocuments :=
        targeted.sourceDocuments ++ [idleDocument db ids times programId request] } ↔
      UrlFree db.toTables request.payload := by
  rcases (publicationTarget_eq_ok naming targeting).1 with ⟨countries, programs, tables⟩
  have consistent := targeted.consistent
  rw [tables] at consistent ⊢
  have refers : Refers (db.versions.map (·.id))
      ((getLatestProgramVersion db.toTables programId).map (·.id)) := by
    cases latest : getLatestProgramVersion db.toTables programId with
    | none => trivial
    | some version => exact List.mem_map_of_mem (latest_mem latest).1
  rw [urlFree_iff_of_target naming targeting]
  refine (consistent_addDocument_iff consistent newId refers).trans ?_
  constructor
  · intro free version latest
    apply free version.id
    rw [idleDocument, latest]
    rfl
  · intro free versionId ofVersion
    rcases Option.map_eq_some_iff.mp ofVersion with ⟨version, latest, rfl⟩
    exact free version latest

end Targeted

theorem idle_publicationVersion (idle : request.publishes = false)
    (naming : publicationCountry db ids request.payload = .ok (named, countryId))
    (targeting : publicationProgram named ids countryId request = .ok (targeted, programId)) :
    publicationVersion targeted ids times programId request =
      .ok (targeted, (getLatestProgramVersion db.toTables programId).map (·.id)) := by
  rcases (publicationTarget_eq_ok naming targeting).1 with ⟨countries, programs, tables⟩
  rw [publicationVersion, if_neg (by simp [idle]), getLatestProgramVersion, tables]
  rfl

omit [UnicodeData] in
theorem publicationExtraction_eq_ok {extraction : SourceExtraction}
    (made : publicationExtraction ids request = .ok extraction) :
    extraction.id = ids.sourceExtraction ∧ extraction.sourceDocumentId = ids.sourceDocument := by
  rw [publicationExtraction] at made
  generalize confidenceColumn request.payload.confidenceScore = column at made
  rcases column with _ | confidence
  · cases made
  · cases made
    exact ⟨rfl, rfl⟩

omit [UnicodeData] in
theorem exists_publicationExtraction_iff :
    (∃ extraction, publicationExtraction ids request = .ok extraction) ↔
      (confidenceColumn request.payload.confidenceScore).isSome := by
  rw [publicationExtraction]
  generalize confidenceColumn request.payload.confidenceScore = column
  rcases column with _ | confidence <;> simp

/-- A call that publishes no version leaves its record exactly if its rows can be stored. -/
theorem records_iff {call : Publication} (newIds : NewIds db.toTables call.ids)
    (idle : call.request.publishes = false) :
    Records db call ↔ Recordable db.toTables call.request.payload := by
  constructor
  · rintro ⟨published, result, done, -⟩
    rcases bind_eq_ok_iff.mp done with ⟨⟨named, countryId⟩, naming, done⟩
    rcases bind_eq_ok_iff.mp done with ⟨⟨targeted, programId⟩, targeting, done⟩
    rcases bind_eq_ok_iff.mp done with ⟨versioned, versioning, done⟩
    rcases bind_eq_ok_iff.mp done with ⟨documented, documenting, done⟩
    rcases bind_eq_ok_iff.mp done with ⟨extraction, extracting, -⟩
    rw [idle_publicationVersion idle naming targeting] at versioning
    cases versioning
    refine ⟨?_, ?_, ?_⟩
    · apply (consistent_idleDocument_iff naming targeting newIds.sourceDocument).mp
      exact exists_flush_iff.mp ⟨documented, documenting⟩
    · exact (exists_publicationCountry_iff newIds.country).mp ⟨named, countryId, naming⟩
    · exact exists_publicationExtraction_iff.mp ⟨extraction, extracting⟩
  · rintro ⟨urlFree, country, confidence⟩
    rcases exists_target newIds country with
      ⟨named, countryId, targeted, programId, naming, targeting⟩
    rcases (publicationTarget_eq_ok naming targeting).1 with ⟨countries, programs, tables⟩
    rcases exists_flush_iff.mpr ((consistent_idleDocument_iff naming targeting
      newIds.sourceDocument).mpr urlFree) with ⟨documented, documenting⟩
    rcases exists_publicationExtraction_iff.mpr confidence with ⟨extraction, extracting⟩
    have documentedTables := flush_eq_ok_iff.mp documenting
    rw [tables] at documentedTables
    rcases publicationExtraction_eq_ok extracting with ⟨extractionId, ofDocument⟩
    have extractionFits : Consistent { documented.toTables with
        sourceExtractions := documented.sourceExtractions ++ [extraction] } := by
      apply consistent_addExtraction documented.consistent
      · rw [documentedTables, extractionId]
        exact newIds.sourceExtraction
      · rw [documentedTables, ofDocument]
        intro other otherMem same
        apply newIds.sourceDocument
        rw [← same]
        exact db.consistent.documents.extractionDocuments other otherMem
      · rw [documentedTables, ofDocument]
        simp [idleDocument, publicationDocument]
    rcases exists_flush_iff.mpr extractionFits with ⟨extracted, sent⟩
    refine ⟨extracted, _, bind_eq_ok_iff.mpr ⟨_, naming, bind_eq_ok_iff.mpr ⟨_, targeting,
      bind_eq_ok_iff.mpr ⟨_, idle_publicationVersion idle naming targeting, bind_eq_ok_iff.mpr
        ⟨documented, documenting, bind_eq_ok_iff.mpr ⟨extraction, extracting,
          bind_eq_ok_iff.mpr ⟨extracted, sent, rfl⟩⟩⟩⟩⟩⟩, ?_⟩
    refine ⟨idleDocument db call.ids call.times programId call.request, extraction, ?_, ?_, rfl,
      ofDocument⟩
    · rw [flush_eq_ok_iff.mp sent, documentedTables]
    · rw [flush_eq_ok_iff.mp sent, documentedTables]

omit [UnicodeData] in
theorem flush_of_not_consistent {tables : Tables} (inconsistent : ¬ Consistent tables) :
    flush tables = .error .integrityError :=
  dif_neg inconsistent

/-- The unique constraint refuses a second document from the URL for the same version. -/
theorem publish_of_not_urlFree {call : Publication} (newIds : NewIds db.toTables call.ids)
    (idle : call.request.publishes = false) (taken : ¬ UrlFree db.toTables call.request.payload) :
    publish db call.ids call.times call.request = .error .integrityError := by
  have country : CountryAvailable db.toTables call.request.payload.countryCode := by
    unfold UrlFree at taken
    push Not at taken
    rcases taken with ⟨-, ⟨country, countryMem, coded, -⟩, -⟩
    exact Or.inl (List.mem_map.mpr ⟨country, countryMem, coded⟩)
  rcases exists_target newIds country with
    ⟨named, countryId, targeted, programId, naming, targeting⟩
  have refused : flush { targeted.toTables with sourceDocuments := targeted.sourceDocuments ++
      [idleDocument db call.ids call.times programId call.request] } =
      .error .integrityError := by
    apply flush_of_not_consistent
    rwa [consistent_idleDocument_iff naming targeting newIds.sourceDocument]
  simp only [publish, naming, targeting, idle_publicationVersion idle naming targeting, bind,
    Except.bind]
  simp only [idleDocument] at refused
  rw [refused]

end Step

section Calls

variable [UnicodeData] {db published : Database} {result : PublishResult}

/-- As long as the version that a document was stored for is the latest, a collection of the
same URL without a new version is refused. -/
theorem publish_again {call again : Publication} {programId : UUID} {version : ProgramVersion}
    (done : publish db call.ids call.times call.request = .ok (published, result))
    (latest : getLatestProgramVersion published.toTables programId = some version)
    (stored : result.programVersionId = some version.id)
    (target : PublishesTo published.toTables again.request.payload programId)
    (sameUrl : again.request.payload.sourceUrl = call.request.payload.sourceUrl)
    (newIds : NewIds published.toTables again.ids) (idle : again.request.publishes = false) :
    publish published again.ids again.times again.request = .error .integrityError := by
  apply publish_of_not_urlFree newIds idle
  intro free
  rcases bind_eq_ok_iff.mp done with ⟨⟨named, countryId⟩, -, done⟩
  rcases bind_eq_ok_iff.mp done with ⟨⟨targeted, targetId⟩, -, done⟩
  rcases bind_eq_ok_iff.mp done with ⟨⟨versioned, versionId⟩, -, done⟩
  rcases bind_eq_ok_iff.mp done with ⟨documented, documenting, done⟩
  rcases bind_eq_ok_iff.mp done with ⟨extraction, -, done⟩
  rcases bind_eq_ok_iff.mp done with ⟨extracted, extracting, done⟩
  cases done
  have documentMem : publicationDocument call.ids call.times call.request versionId ∈
      published.sourceDocuments := by
    rw [flush_eq_ok_iff.mp extracting, flush_eq_ok_iff.mp documenting]
    simp
  exact free programId target version latest _ documentMem stored sameUrl.symm

/-- Every call without a new version leaves its record exactly if the rows of each can be stored
when it is made. -/
theorem leavesRecords_iff {calls : List Publication}
    (newIds : Along publishStep (fun before call => NewIds before.toTables call.ids) db calls) :
    LeavesRecords db calls ↔
      Along publishStep (fun before call => call.request.publishes = false →
        Recordable before.toTables call.request.payload) db calls := by
  refine along_congr ?_ newIds
  intro before call callIds
  exact forall_congr' fun idle => records_iff callIds idle

end Calls

section Sample

local instance collectedUnicodeData : UnicodeData := UnicodeData.ascii

/-- A program with one version, which has no document yet. -/
def reviewedCatalogue : Database where
  toTables := { sampleCatalogue.toTables with versions := [sampleVersion] }
  consistent := by decide

/-- A collection of the sample payload, which is left to a manual review. -/
def reviewedCollection (number : ℕ) : Publication where
  ids := {
    country := Fin.ofNat _ (number + 100)
    program := Fin.ofNat _ (number + 200)
    version := Fin.ofNat _ (number + 300)
    group position := Fin.ofNat _ (1000 * number + position)
    condition position index := Fin.ofNat _ (1000 * number + 10 * position + index)
    outcome position index := Fin.ofNat _ (1000 * number + 10 * position + index)
    sourceDocument := Fin.ofNat _ (number + 400)
    sourceExtraction := Fin.ofNat _ (number + 500) }
  times := ⟨20, 20, 20⟩
  request := {
    source := ⟨19, "ca-express-entry", "CA", "1.0.0"⟩
    runItemId := Fin.ofNat _ number
    payload := samplePayload
    diffChanged := true
    semanticHash := "0123456789abcdef"
    rawHashSha256 := "559aead08264d5795d3909718cdd05abd49572e84fe55590eef31a88a08fdffd"
    rawStorageUri := "bronze/ca-express-entry"
    allowPublish := false }

/-- A collection of the same page that is published. -/
def publishedCollection (number : ℕ) : Publication :=
  { reviewedCollection number with
    request := { (reviewedCollection number).request with allowPublish := true } }

/-- A collection of another page of the program. -/
def otherPageCollection (number : ℕ) : Publication :=
  { reviewedCollection number with
    request := { (reviewedCollection number).request with
      payload := { samplePayload with sourceUrl := "express-entry-rounds.html" } } }

def collectedCalls : List Publication :=
  [reviewedCollection 1, publishedCollection 2, otherPageCollection 3]

theorem leavesRecords_sample :
    (run publishStep reviewedCatalogue collectedCalls).versions.length = 2 ∧
      LeavesRecords reviewedCatalogue collectedCalls := by
  refine ⟨by decide +kernel, ?_⟩
  have newIds : Along publishStep (fun before call => NewIds before.toTables call.ids)
      reviewedCatalogue collectedCalls := by
    refine ⟨?_, ?_, ?_, trivial⟩
    · constructor <;> decide
    · constructor <;> decide +kernel
    · constructor <;> decide +kernel
  apply (leavesRecords_iff newIds).mpr
  refine ⟨fun _ => ⟨?_, ?_, ?_⟩, fun publishes => absurd publishes (by decide),
    fun _ => ⟨?_, ?_, ?_⟩, trivial⟩
  · intro programId _ version _ document documentMem
    cases documentMem
  · exact Or.inl (by decide)
  · decide +kernel
  · intro programId _ version _ document documentMem _
    have others : ∀ document ∈ (run publishStep reviewedCatalogue
        [reviewedCollection 1, publishedCollection 2]).sourceDocuments,
        document.sourceUrl ≠ "express-entry-rounds.html" := by
      decide +kernel
    exact others document documentMem
  · exact Or.inl (by decide +kernel)
  · decide +kernel

/-- The source is collected a second time before there is a new version, and its record is
refused. -/
theorem second_collection_leaves_none :
    ¬ LeavesRecords reviewedCatalogue [reviewedCollection 1, reviewedCollection 2] := by
  rintro ⟨-, records, -⟩
  rcases records rfl with ⟨published, result, done, -⟩
  have refused : errorOf (publish (publishStep reviewedCatalogue (reviewedCollection 1))
      (reviewedCollection 2).ids (reviewedCollection 2).times (reviewedCollection 2).request) =
      some .integrityError := by
    decide +kernel
  rw [done] at refused
  cases refused

end Sample

end ImigrAI.Ingestion
