import ImigrAI.Assessments.Processing
import ImigrAI.Assessments.Score

/-!
# The version in force at the request

An assessment is requested at an instant and processed later; in between, payloads are
published and versions activated. The version that was in force at the request is the one the
processing uses exactly as long as none of these events archives it: a publication for its
program does, and so does the forced activation of another version of the program that
overlaps an active one.
-/

namespace ImigrAI.Assessments

open Python ImmigrationRules Ingestion Rows Sorting Runs

inductive VersionEvent where
  | publish (ids : PublicationIds) (times : PublicationTimes) (request : PublishRequest)
  | activate (id : UUID) (payload : ProgramVersionActivateRequest)

section Events

variable [UnicodeData]

def VersionEvent.execute (db : Database) : VersionEvent → Except ServiceError Database
  | publish ids times request => (Ingestion.publish db ids times request).map Prod.fst
  | activate id payload => activateProgramVersion db id payload

/-- An event that raises commits nothing. -/
def versionStep (db : Database) (event : VersionEvent) : Database :=
  match event.execute db with
  | .ok committed => committed
  | .error _ => db

/-- The event commits and archives the version: it publishes for the program of the version, or
it activates another version of the program by force although an active one overlaps it. -/
def Archives (db : Database) (version : ProgramVersion) (event : VersionEvent) : Prop :=
  (∃ committed, event.execute db = .ok committed) ∧
    match event with
    | .publish _ _ request =>
        request.publishes ∧ PublishesTo db.toTables request.payload version.programId
    | .activate id payload =>
        id ≠ version.id ∧ payload.force ∧
          ∃ target ∈ db.versions, target.id = id ∧ target.programId = version.programId ∧
            findActiveOverlap db.toTables target.programId (some id) target.effectiveFrom
              target.effectiveTo ≠ .ok none

/-- What has to be known of the store to know what the processing uses: nothing but the version
is in force at the request, and the version has these rule groups. -/
structure OnlyInForce (version : ProgramVersion) (ruleGroups : List RuleGroup)
    (requestedAt : Instant) (db : Database) : Prop where
  alone : ∀ other ∈ db.versions, other.programId = version.programId → other.status = .active →
    requestedAt ∈ other.period.instants → other = version
  rules : listRuleGroups db.toTables version.id = ruleGroups

variable {version : ProgramVersion} {ruleGroups : List RuleGroup} {requestedAt : Instant}
  {db : Database}

omit [UnicodeData] in
theorem eq_of_mem_of_id {first second : ProgramVersion} (firstMem : first ∈ db.versions)
    (secondMem : second ∈ db.versions) (same : first.id = second.id) : first = second :=
  List.inj_on_of_nodup_map db.consistent.catalogue.versionIds firstMem secondMem same

theorem publishes_versions {committed : Database} {ids : PublicationIds}
    {times : PublicationTimes} {request : PublishRequest} (versionMem : version ∈ db.versions)
    (done : (VersionEvent.publish ids times request).execute db = .ok committed) :
    ∃ programId,
      (PublishesTo db.toTables request.payload version.programId ↔
        version.programId = programId) ∧
      if request.publishes then
        committed.versions = archiveProgramVersions programId times.now db.versions ++
            [publishedVersion ids times programId request.semanticHash] ∧
          ∃ rows, (∀ row ∈ rows, row.programVersionId = ids.version) ∧
            committed.ruleGroups = db.ruleGroups ++ rows
      else committed.versions = db.versions ∧ committed.ruleGroups = db.ruleGroups := by
  rcases Fallible.map_eq_ok_iff.mp done with ⟨⟨published, result⟩, publishing, rfl⟩
  rcases publish_eq_ok publishing with ⟨programId, target, tables⟩
  rcases List.mem_map.mp (db.consistent.catalogue.versionPrograms version versionMem) with
    ⟨program, programMem, ofProgram⟩
  refine ⟨programId, ?_, ?_⟩
  · rw [← ofProgram]
    exact target program programMem
  · split_ifs at tables ⊢
    · rcases tables with ⟨versions, rows, stores, groups⟩
      exact ⟨versions, rows, stores.versionId, groups⟩
    · exact tables

omit [UnicodeData] in
/-- A new version has an id of its own. -/
theorem published_id_ne {committed : Database} {ids : PublicationIds} {times : PublicationTimes}
    {programId : UUID} {semanticHash : String} (versionMem : version ∈ db.versions)
    (versions : committed.versions = archiveProgramVersions programId times.now db.versions ++
      [publishedVersion ids times programId semanticHash]) : version.id ≠ ids.version := by
  have distinct := committed.consistent.catalogue.versionIds
  rw [versions] at distinct
  have newId := (nodup_map_append_singleton.mp distinct).1
  rw [map_id_archiveProgramVersions] at newId
  exact fun same => newId (List.mem_map.mpr ⟨version, versionMem, same⟩)

theorem listRuleGroups_publish {committed : Database} {ids : PublicationIds}
    {times : PublicationTimes} {request : PublishRequest} (versionMem : version ∈ db.versions)
    (done : (VersionEvent.publish ids times request).execute db = .ok committed) :
    listRuleGroups committed.toTables version.id = listRuleGroups db.toTables version.id := by
  rcases publishes_versions versionMem done with ⟨programId, -, tables⟩
  split_ifs at tables
  · rcases tables with ⟨versions, rows, ofNew, groups⟩
    have none : rows.filter (fun group => group.programVersionId = version.id) = [] := by
      rw [List.filter_eq_nil_iff]
      intro row rowMem
      simpa [ofNew row rowMem] using (published_id_ne versionMem versions).symm
    rw [listRuleGroups, groups, List.filter_append, none, List.append_nil]
    rfl
  · rw [listRuleGroups, tables.2]
    rfl

/-- A publication keeps an active version exactly if it does not publish for its program. -/
theorem mem_publish_iff {committed : Database} {ids : PublicationIds} {times : PublicationTimes}
    {request : PublishRequest} (versionMem : version ∈ db.versions)
    (active : version.status = .active)
    (done : (VersionEvent.publish ids times request).execute db = .ok committed) :
    version ∈ committed.versions ↔
      ¬ (request.publishes ∧ PublishesTo db.toTables request.payload version.programId) := by
  rcases publishes_versions versionMem done with ⟨programId, target, tables⟩
  rw [target]
  split_ifs at tables with publishing
  · simp only [publishing, true_and]
    rcases tables with ⟨versions, -⟩
    constructor
    · intro kept
      rw [versions] at kept
      rcases List.mem_append.mp kept with kept | new
      · exact (of_mem_archiveProgramVersions kept active).2
      · have sameId := congrArg ProgramVersion.id (List.mem_singleton.mp new)
        exact absurd sameId (published_id_ne versionMem versions)
    · intro other
      rw [versions]
      exact List.mem_append_left _ (mem_archiveProgramVersions_of_ne versionMem other)
  · simp [tables.1, versionMem, publishing]

omit [UnicodeData] in
/-- An activation keeps an active version exactly if it does not archive it by force. -/
theorem mem_activate_iff {committed : Database} {id : UUID}
    {payload : ProgramVersionActivateRequest} (versionMem : version ∈ db.versions)
    (active : version.status = .active)
    (done : activateProgramVersion db id payload = .ok committed) :
    version ∈ committed.versions ↔
      ¬ (id ≠ version.id ∧ payload.force ∧
        ∃ target ∈ db.versions, target.id = id ∧ target.programId = version.programId ∧
          findActiveOverlap db.toTables target.programId (some id) target.effectiveFrom
            target.effectiveTo ≠ .ok none) := by
  rcases activateProgramVersion_eq_ok done with
    ⟨target, targetMem, rfl, overlap, query, forced, tables⟩
  rw [tables]
  by_cases same : target.id = version.id
  · cases eq_of_mem_of_id targetMem versionMem same
    have unchanged : { version with status := .active } = version := by rw [← active]
    have kept : version ∈ (if overlap.isSome then archiveOthers version db.versions
        else db.versions) := by
      split_ifs
      · exact mem_archiveOthers versionMem fun _ => rfl
      · exact versionMem
    have replaced := self_mem_replaceRow (·.id) { version with status := .active } kept rfl
    rw [unchanged] at replaced ⊢
    simp [replaced]
  · have onlyTarget : ∀ row ∈ db.versions, row.id = target.id → row = target :=
      fun row rowMem sameId => eq_of_mem_of_id rowMem targetMem sameId
    cases overlap with
    | none =>
        refine iff_of_true (mem_replaceRow_of_ne versionMem (Ne.symm same)) ?_
        rintro ⟨-, -, row, rowMem, sameId, -, found⟩
        rw [onlyTarget row rowMem sameId] at found
        exact found query
    | some overlapping =>
        by_cases ofProgram : target.programId = version.programId
        · refine iff_of_false ?_ (not_not.mpr ⟨same, forced rfl, target, targetMem, rfl,
            ofProgram, by simp [query]⟩)
          intro kept
          rcases of_mem_replaceRow kept with replaced | ⟨kept, -⟩
          · exact same (congrArg ProgramVersion.id replaced).symm
          · exact same ((of_mem_archiveOthers kept active).2 ofProgram.symm).symm
        · refine iff_of_true (mem_replaceRow_of_ne (mem_archiveOthers versionMem
            fun sameProgram => absurd sameProgram.symm ofProgram) (Ne.symm same)) ?_
          rintro ⟨-, -, row, rowMem, sameId, sameProgram, -⟩
          rw [onlyTarget row rowMem sameId] at sameProgram
          exact ofProgram sameProgram

/-- An event keeps an active version exactly if it does not archive it. -/
theorem mem_versionStep_iff (versionMem : version ∈ db.versions)
    (active : version.status = .active) (event : VersionEvent) :
    version ∈ (versionStep db event).versions ↔ ¬ Archives db version event := by
  unfold versionStep Archives
  cases done : event.execute db with
  | error error => simp [versionMem]
  | ok committed =>
      simp only [Except.ok.injEq, exists_eq', true_and]
      cases event with
      | publish ids times request => exact mem_publish_iff versionMem active done
      | activate id payload => exact mem_activate_iff versionMem active done

theorem onlyInForce_publish {committed : Database} {ids : PublicationIds}
    {times : PublicationTimes} {request : PublishRequest} (versionMem : version ∈ db.versions)
    (only : OnlyInForce version ruleGroups requestedAt db)
    (done : (VersionEvent.publish ids times request).execute db = .ok committed)
    (kept : ¬ (request.publishes ∧ PublishesTo db.toTables request.payload version.programId)) :
    OnlyInForce version ruleGroups requestedAt committed := by
  refine ⟨?_, (listRuleGroups_publish versionMem done).trans only.rules⟩
  intro other otherMem sameProgram active inForce
  rcases publishes_versions versionMem done with ⟨programId, target, tables⟩
  rw [target] at kept
  split_ifs at tables with publishing
  · rw [tables.1] at otherMem
    rcases List.mem_append.mp otherMem with old | new
    · exact only.alone other (of_mem_archiveProgramVersions old active).1 sameProgram active inForce
    · rw [List.mem_singleton.mp new] at sameProgram
      exact absurd ⟨publishing, sameProgram.symm⟩ kept
  · rw [tables.1] at otherMem
    exact only.alone other otherMem sameProgram active inForce

omit [UnicodeData] in
theorem onlyInForce_activate {committed : Database} {id : UUID}
    {payload : ProgramVersionActivateRequest} (versionMem : version ∈ db.versions)
    (active : version.status = .active) (inForce : requestedAt ∈ version.period.instants)
    (only : OnlyInForce version ruleGroups requestedAt db)
    (done : activateProgramVersion db id payload = .ok committed)
    (kept : ¬ (id ≠ version.id ∧ payload.force ∧
      ∃ target ∈ db.versions, target.id = id ∧ target.programId = version.programId ∧
        findActiveOverlap db.toTables target.programId (some id) target.effectiveFrom
          target.effectiveTo ≠ .ok none)) :
    OnlyInForce version ruleGroups requestedAt committed := by
  rcases activateProgramVersion_eq_ok done with
    ⟨target, targetMem, rfl, overlap, query, forced, tables⟩
  have sameGroups : committed.ruleGroups = db.ruleGroups := by rw [tables]
  refine ⟨?_, by rw [listRuleGroups, sameGroups]; exact only.rules⟩
  intro other otherMem sameProgram otherActive otherInForce
  rw [tables] at otherMem
  rcases of_mem_replaceRow otherMem with rfl | ⟨old, -⟩
  · by_cases same : target.id = version.id
    · cases eq_of_mem_of_id targetMem versionMem same
      rw [← active]
    · -- The target is in force at the request like the version, so the query has found a row.
      have overlaps : overlap ≠ none := by
        rintro rfl
        have apart := (findActiveOverlap_eq_none_iff targetMem).mp query version versionMem
          sameProgram.symm active (Ne.symm same)
        exact Set.disjoint_left.mp apart inForce otherInForce
      have found : findActiveOverlap db.toTables target.programId (some target.id)
          target.effectiveFrom target.effectiveTo ≠ .ok none := by
        rw [query]
        exact fun none => overlaps (Except.ok.inj none)
      exact absurd ⟨same, forced (Option.isSome_iff_ne_none.mpr overlaps), target, targetMem, rfl,
        sameProgram, found⟩ kept
  · have oldMem : other ∈ db.versions := by
      split_ifs at old
      · exact (of_mem_archiveOthers old otherActive).1
      · exact old
    exact only.alone other oldMem sameProgram otherActive otherInForce

/-- An event that does not archive the version leaves it alone in force, with its rules. -/
theorem onlyInForce_versionStep (versionMem : version ∈ db.versions)
    (active : version.status = .active) (inForce : requestedAt ∈ version.period.instants)
    (only : OnlyInForce version ruleGroups requestedAt db) {event : VersionEvent}
    (kept : ¬ Archives db version event) :
    OnlyInForce version ruleGroups requestedAt (versionStep db event) := by
  unfold versionStep
  cases done : event.execute db with
  | error error => exact only
  | ok committed =>
      have keptHere := not_and.mp kept ⟨committed, done⟩
      cases event with
      | publish ids times request => exact onlyInForce_publish versionMem only done keptHere
      | activate id payload =>
          exact onlyInForce_activate versionMem active inForce only done keptHere

end Events

section Processing

variable [UnicodeData] [Hashlib]

/-- Whatever the profile, processing an assessment requested at the instant evaluates this
version with these rule groups. -/
def UsesVersion (version : ProgramVersion) (ruleGroups : List RuleGroup) (requestedAt : Instant)
    (db : Database) : Prop :=
  getActiveProgramVersion db.toTables version.programId requestedAt = some version ∧
    ∀ profileJson, computeAssessment db.toTables ⟨version.programId, requestedAt, some profileJson⟩ =
      evaluateVersion version ruleGroups profileJson

variable {version : ProgramVersion} {ruleGroups : List RuleGroup} {requestedAt : Instant}
  {db : Database}

theorem usesVersion_iff_mem (active : version.status = .active)
    (inForce : requestedAt ∈ version.period.instants)
    (only : OnlyInForce version ruleGroups requestedAt db) :
    UsesVersion version ruleGroups requestedAt db ↔ version ∈ db.versions := by
  constructor
  · intro uses
    exact (List.mem_filter.mp (mem_of_head?_sortBy uses.1)).1
  · intro versionMem
    have beforeEnd : requestedAt < endOfTime := inForce.2.trans_le (Fin.le_last _)
    have selected : getActiveProgramVersion db.toTables version.programId requestedAt =
        some version := by
      apply head?_sortBy_eq_some
      · rw [List.mem_filter, decide_eq_true_eq]
        exact ⟨versionMem, rfl, active, inForce.1, (endsAfter_iff beforeEnd).mpr inForce.2⟩
      · intro other otherMem
        rw [List.mem_filter, decide_eq_true_eq] at otherMem
        rcases otherMem with ⟨otherMem, sameProgram, otherActive, started, ends⟩
        exact only.alone other otherMem sameProgram otherActive
          ⟨started, (endsAfter_iff beforeEnd).mp ends⟩
    refine ⟨selected, fun profileJson => ?_⟩
    rw [computeAssessment]
    simp only [selected, only.rules]

/-- The version is active and in force at the instant, and no other version of its program
is. -/
structure InForceAlone (version : ProgramVersion) (requestedAt : Instant) (db : Database) :
    Prop where
  mem : version ∈ db.versions
  active : version.status = .active
  inForce : requestedAt ∈ version.period.instants
  alone : ∀ other ∈ db.versions, other.programId = version.programId → other.status = .active →
    requestedAt ∈ other.period.instants → other = version

omit [UnicodeData] [Hashlib] in
/-- Where active versions have disjoint periods, an active version in force is alone. -/
theorem inForceAlone_of_disjointActive (disjoint : DisjointActive db.versions)
    (versionMem : version ∈ db.versions) (active : version.status = .active)
    (inForce : requestedAt ∈ version.period.instants) : InForceAlone version requestedAt db := by
  refine ⟨versionMem, active, inForce, ?_⟩
  intro other otherMem sameProgram otherActive otherInForce
  apply eq_of_mem_of_id otherMem versionMem
  by_contra different
  have apart := disjoint other otherMem version versionMem otherActive active sameProgram different
  exact Set.disjoint_left.mp apart otherInForce inForce

/-- The processing uses the version of the request in every state of a run of publications and
activations exactly if none of them archives it. -/
theorem usesVersion_iff_not_archived (requested : InForceAlone version requestedAt db)
    (events : List VersionEvent) :
    (∀ visited ∈ states versionStep db events,
        UsesVersion version (listRuleGroups db.toTables version.id) requestedAt visited) ↔
      Along versionStep (fun before event => ¬ Archives before version event) db events := by
  rcases requested with ⟨versionMem, active, inForce, alone⟩
  have mem {before : Database} (only : OnlyInForce version
      (listRuleGroups db.toTables version.id) requestedAt before) :=
    usesVersion_iff_mem active inForce only
  have keep : ∀ before event,
      OnlyInForce version (listRuleGroups db.toTables version.id) requestedAt before →
      UsesVersion version (listRuleGroups db.toTables version.id) requestedAt before →
      ¬ Archives before version event →
      OnlyInForce version (listRuleGroups db.toTables version.id) requestedAt
        (versionStep before event) := by
    intro before event only uses kept
    exact onlyInForce_versionStep ((mem only).mp uses) active inForce only kept
  refine forall_states_iff_along keep ?_ ⟨alone, rfl⟩ ((mem ⟨alone, rfl⟩).mpr versionMem) events
  intro before event only uses
  rw [← mem_versionStep_iff ((mem only).mp uses) active event]
  constructor
  · intro usesAfter
    exact (List.mem_filter.mp (mem_of_head?_sortBy usesAfter.1)).1
  · intro afterMem
    have kept := (mem_versionStep_iff ((mem only).mp uses) active event).mp afterMem
    exact (mem (keep before event only uses kept)).mpr afterMem

end Processing

section Sample

local instance versionUnicodeData : UnicodeData := UnicodeData.ascii

local instance versionHashlib : Hashlib := sampleHashlib

theorem inForceAlone_sample : InForceAlone ImmigrationRules.sampleVersion 5 sampleCatalogue :=
  inForceAlone_of_disjointActive disjointActive_sampleCatalogue List.mem_cons_self rfl
    ⟨by decide, by decide⟩

theorem usesVersion_iff_not_archived_sample :
    (∀ visited ∈ states versionStep sampleCatalogue [.activate 4 ⟨true⟩, .activate 5 ⟨false⟩],
        UsesVersion ImmigrationRules.sampleVersion
          (listRuleGroups sampleCatalogue.toTables ImmigrationRules.sampleVersion.id) 5 visited) ↔
      Along versionStep
        (fun before event => ¬ Archives before ImmigrationRules.sampleVersion event)
        sampleCatalogue [.activate 4 ⟨true⟩, .activate 5 ⟨false⟩] :=
  usesVersion_iff_not_archived inForceAlone_sample _

/-- A payload of the sample program, published after the request. -/
def samplePublication : VersionEvent :=
  .publish ⟨11, 12, 13, fun _ => 14, fun _ _ => 15, fun _ _ => 16, 17, 18⟩ ⟨20, 20, 20⟩ {
    source := ⟨19, "ca-express-entry", "CA", "1.0.0"⟩
    runItemId := 21
    payload := samplePayload
    diffChanged := true
    semanticHash := "0123456789abcdef"
    rawHashSha256 := ""
    rawStorageUri := ""
    allowPublish := true }

/-- After the publication no version is found for the instant of the request. -/
theorem publication_hides_version :
    InForceAlone ImmigrationRules.sampleVersion 5 sampleCatalogue ∧
      ∀ profileJson, computeAssessment
          (run versionStep sampleCatalogue [samplePublication]).toTables ⟨2, 5, some profileJson⟩ =
        .error (.valueError "No active program version found for requested timestamp") := by
  refine ⟨inForceAlone_sample, fun profileJson => ?_⟩
  have hidden : getActiveProgramVersion
      (run versionStep sampleCatalogue [samplePublication]).toTables 2 5 = none := by
    decide +kernel
  rw [computeAssessment]
  simp only [hidden]

end Sample

end ImigrAI.Assessments
