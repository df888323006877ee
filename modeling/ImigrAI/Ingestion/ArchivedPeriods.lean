import ImigrAI.ImmigrationRules.ActiveVersions

/-!
# The timeline of a program after a publication

A publication ends every active version of the program at the instant of the publication,
whatever its own period is. That breaks the effective range of a version that is still to come,
and prolongs one that has ended.
-/

namespace ImigrAI.Ingestion

open Python ImmigrationRules Fallible Rows

/-- The end of a period is no later than it was. -/
def NoLaterEnd (effectiveTo : Option Instant) : Option Instant → Prop
  | none => True
  | some earlier => ∃ instant ∈ effectiveTo, instant ≤ earlier

/-- What a publication is to leave of the versions of a program. -/
structure PreservesTimeline (programId : UUID) (now : Instant)
    (before after : List ProgramVersion) : Prop where
  ranges : ∀ version ∈ after, version.status = .archived →
    EndsAfter version.effectiveFrom version.effectiveTo
  ends : ∀ version ∈ after, version.status = .archived → ∀ old ∈ before, old.id = version.id →
    NoLaterEnd version.effectiveTo old.effectiveTo
  active : ∃ version, (after.filter fun version =>
    version.programId = programId ∧ version.status = .active) = [version] ∧
      version.effectiveFrom = now

/-- The rows of the new version and its groups have values for their columns and meet the
constraints. -/
structure NewRowsFit (db : Database) (ids : PublicationIds) (times : PublicationTimes)
    (programId : UUID) (payload : NormalizedProgramPayload) (semanticHash : String) : Prop where
  program : programId ∈ db.programs.map (·.id)
  id : ids.version ∉ db.versions.map (·.id)
  label : (programId, buildVersionLabel times.now semanticHash) ∉
    db.versions.map fun version => (version.programId, version.version)
  groups : ∃ rows, StoresGroups ids ids.version (payload.ruleGroups.zipIdx 0) rows ∧
    RulesConsistent { db.toTables with
      versions := db.versions ++ [publishedVersion ids times programId semanticHash]
      ruleGroups := db.ruleGroups ++ rows }

/-- Every active version of the program is in force when it is archived, or ends just then. -/
def ActiveInForce (versions : List ProgramVersion) (programId : UUID) (now : Instant) : Prop :=
  ∀ version ∈ versions, version.programId = programId → version.status = .active →
    version.effectiveFrom < now ∧ ∀ effectiveTo ∈ version.effectiveTo, now ≤ effectiveTo

section Constraints

variable {tables : Tables}

/-- One more version. -/
theorem consistent_of_newVersion (consistent : Consistent tables) {version : ProgramVersion}
    (program : version.programId ∈ tables.programs.map (·.id))
    (id : version.id ∉ tables.versions.map (·.id))
    (label : (version.programId, version.version) ∉
      tables.versions.map fun version => (version.programId, version.version))
    (range : EndsAfter version.effectiveFrom version.effectiveTo) :
    Consistent { tables with versions := tables.versions ++ [version] } := by
  have stored : tables.versions.map (·.id) ⊆ (tables.versions ++ [version]).map (·.id) := by
    rw [List.map_append]
    exact List.subset_append_left _ _
  have inBoth {property : ProgramVersion → Prop} (old : ∀ other ∈ tables.versions, property other)
      (new : property version) : ∀ other ∈ tables.versions ++ [version], property other := by
    intro other otherMem
    rcases List.mem_append.mp otherMem with otherMem | isNew
    · exact old other otherMem
    · rw [List.mem_singleton.mp isNew]
      exact new
  constructor
  · refine { consistent.catalogue with
      versionIds := ?_
      versionLabels := ?_
      versionPrograms := inBoth consistent.catalogue.versionPrograms program
      effectiveRanges := inBoth consistent.catalogue.effectiveRanges range }
    · exact nodup_map_append_singleton.mpr ⟨id, consistent.catalogue.versionIds⟩
    · exact nodup_map_append_singleton.mpr ⟨label, consistent.catalogue.versionLabels⟩
  · refine { consistent.rules with groupVersions := ?_ }
    exact fun group groupMem => stored (consistent.rules.groupVersions group groupMem)
  · refine { consistent.documents with documentVersions := ?_ }
    intro document documentMem
    have refers := consistent.documents.documentVersions document documentMem
    cases named : document.programVersionId with
    | none => trivial
    | some versionId =>
        rw [named] at refers
        exact stored refers

theorem rulesConsistent_of_sublist {part whole : List RuleGroup} (sub : part.Sublist whole)
    (consistent : RulesConsistent { tables with ruleGroups := whole }) :
    RulesConsistent { tables with ruleGroups := part } where
  groupIds := (sub.map _).nodup consistent.groupIds
  groupCodes := (sub.map _).nodup consistent.groupCodes
  groupVersions group groupMem := consistent.groupVersions group (sub.subset groupMem)
  conditionIds := (sub.flatMap _).nodup consistent.conditionIds
  outcomeIds := (sub.flatMap _).nodup consistent.outcomeIds

theorem rulesConsistent_of_ids {versions others : List ProgramVersion} {groups : List RuleGroup}
    (same : versions.map (·.id) = others.map (·.id))
    (consistent : RulesConsistent { tables with versions := versions, ruleGroups := groups }) :
    RulesConsistent { tables with versions := others, ruleGroups := groups } := by
  refine { consistent with groupVersions := ?_ }
  have stored := consistent.groupVersions
  rwa [same] at stored

theorem flush_of_consistent (consistent : Consistent tables) :
    flush tables = .ok ⟨tables, consistent⟩ :=
  flush_eq_ok_iff.mpr rfl

end Constraints

section Publication

variable {db : Database} {ids : PublicationIds} {times : PublicationTimes} {programId : UUID}
  {payload : NormalizedProgramPayload} {semanticHash : String}

/-- Rule groups are stored if all of them together meet the constraints. -/
theorem storeGroups_of_consistent {versionId : UUID} {position : ℕ}
    {groups : List NormalizedRuleGroup} {rows : List RuleGroup}
    (stores : StoresGroups ids versionId (groups.zipIdx position) rows)
    (consistent : RulesConsistent { db.toTables with ruleGroups := db.ruleGroups ++ rows }) :
    ∃ stored, storeGroups ids versionId position groups db = .ok stored := by
  induction groups generalizing position rows db with
  | nil => exact ⟨db, rfl⟩
  | cons group rest ih =>
      rw [List.zipIdx_cons] at stores
      cases stores with
      | @cons _ row _ rows made stores =>
          have first : RulesConsistent { db.toTables with ruleGroups := db.ruleGroups ++ [row] } := by
            refine rulesConsistent_of_sublist ?_ consistent
            exact (List.singleton_sublist.mpr List.mem_cons_self).append_left _
          have sent : Consistent { db.toTables with ruleGroups := db.ruleGroups ++ [row] } :=
            ⟨{ db.consistent.catalogue with }, first, { db.consistent.documents with }⟩
          have later : RulesConsistent { db.toTables with
              ruleGroups := (db.ruleGroups ++ [row]) ++ rows } := by
            rwa [List.append_assoc, List.singleton_append]
          rcases @ih ⟨_, sent⟩ (position + 1) rows stores later with ⟨stored, storing⟩
          refine ⟨stored, ?_⟩
          rw [storeGroups, made]
          change (flush _ >>= _) = _
          rw [flush_of_consistent sent]
          exact storing

theorem labels_archiveProgramVersions (archivedAt : Instant) (versions : List ProgramVersion) :
    (archiveProgramVersions programId archivedAt versions).map
        (fun version => (version.programId, version.version)) =
      versions.map fun version => (version.programId, version.version) := by
  rw [archiveProgramVersions, List.map_map]
  refine List.map_congr_left fun version _ => ?_
  rw [Function.comp_apply]
  split_ifs <;> rfl

/-- An archived version is one that was active, or one that stays as it was. -/
theorem mem_archiveProgramVersions_iff {archivedAt : Instant} {versions : List ProgramVersion}
    {version : ProgramVersion} :
    version ∈ archiveProgramVersions programId archivedAt versions ↔
      (∃ old ∈ versions, (old.programId = programId ∧ old.status = .active) ∧
        version = { old with status := .archived, effectiveTo := some archivedAt }) ∨
      version ∈ versions ∧ ¬ (version.programId = programId ∧ version.status = .active) := by
  rw [archiveProgramVersions, List.mem_map]
  constructor
  · rintro ⟨old, oldMem, rfl⟩
    split_ifs with archived
    · exact Or.inl ⟨old, oldMem, archived, rfl⟩
    · exact Or.inr ⟨oldMem, archived⟩
  · rintro (⟨old, oldMem, archived, rfl⟩ | ⟨versionMem, kept⟩)
    · exact ⟨old, oldMem, if_pos archived⟩
    · exact ⟨version, versionMem, if_neg kept⟩

/-- A publication succeeds exactly if the new rows fit and no active version is still to come. -/
theorem publishVersion_isOk_iff :
    (∃ published, publishVersion db ids times programId payload semanticHash =
      .ok (published, ids.version)) ↔
      NewRowsFit db ids times programId payload semanticHash ∧
        ∀ version ∈ db.versions, version.programId = programId → version.status = .active →
          version.effectiveFrom < times.now := by
  have sameIds := map_id_archiveProgramVersions programId times.now db.versions
  constructor
  · rintro ⟨published, done⟩
    rcases publishVersion_eq_ok done with ⟨-, rows, stores, tables⟩
    have consistent := published.consistent
    rw [tables] at consistent
    have newProgram := consistent.catalogue.versionPrograms
      (publishedVersion ids times programId semanticHash) (by simp)
    have newId := (nodup_map_append_singleton.mp consistent.catalogue.versionIds).1
    have newLabel := (nodup_map_append_singleton.mp consistent.catalogue.versionLabels).1
    rw [sameIds] at newId
    rw [labels_archiveProgramVersions] at newLabel
    refine ⟨⟨newProgram, newId, newLabel, rows, stores, ?_⟩, ?_⟩
    · refine rulesConsistent_of_ids ?_ consistent.rules
      rw [List.map_append, List.map_append, sameIds]
    · intro version versionMem ofProgram active
      refine consistent.catalogue.effectiveRanges
        { version with status := .archived, effectiveTo := some times.now } ?_
      apply List.mem_append_left
      exact mem_archiveProgramVersions_iff.mpr
        (Or.inl ⟨version, versionMem, ⟨ofProgram, active⟩, rfl⟩)
  · rintro ⟨fit, started⟩
    rcases fit.groups with ⟨rows, stores, rules⟩
    have archived := consistent_of_versions db.consistent sameIds
      (labels_archiveProgramVersions times.now db.versions) (by
        intro version versionMem
        rcases mem_archiveProgramVersions_iff.mp versionMem with
          ⟨old, oldMem, ⟨ofProgram, active⟩, rfl⟩ | ⟨versionMem, -⟩
        · exact started old oldMem ofProgram active
        · exact db.consistent.catalogue.effectiveRanges version versionMem)
    have created := @consistent_of_newVersion _ archived
      (publishedVersion ids times programId semanticHash) fit.program
      (by rw [sameIds]; exact fit.id)
      (by rw [labels_archiveProgramVersions]; exact fit.label) trivial
    have groups : RulesConsistent { db.toTables with
        versions := archiveProgramVersions programId times.now db.versions ++
          [publishedVersion ids times programId semanticHash]
        ruleGroups := db.ruleGroups ++ rows } := by
      refine rulesConsistent_of_ids ?_ rules
      rw [List.map_append, List.map_append, sameIds]
    rcases @storeGroups_of_consistent ⟨_, created⟩ ids ids.version 0 payload.ruleGroups rows stores
      groups with ⟨stored, storing⟩
    refine ⟨stored, ?_⟩
    rw [publishVersion, flush_of_consistent archived]
    change (flush _ >>= _) = _
    rw [flush_of_consistent created]
    change (storeGroups ids ids.version 0 payload.ruleGroups _ >>= _) = _
    rw [storing]
    rfl

/-- After a publication the new version is the only active one of the program. -/
theorem active_publishVersion {published : Database}
    (done : publishVersion db ids times programId payload semanticHash =
      .ok (published, ids.version)) :
    (published.versions.filter fun version =>
      version.programId = programId ∧ version.status = .active) =
        [publishedVersion ids times programId semanticHash] := by
  rcases publishVersion_eq_ok done with ⟨-, rows, -, tables⟩
  rw [tables, List.filter_append, List.filter_eq_nil_iff.mpr, List.nil_append]
  · simp [publishedVersion]
  · intro version versionMem
    simp only [decide_eq_true_eq, not_and]
    intro ofProgram active
    exact (of_mem_archiveProgramVersions versionMem active).2 ofProgram

/-- No end of a period is later if no archived version had ended. -/
theorem ends_publishVersion_iff {published : Database}
    (done : publishVersion db ids times programId payload semanticHash =
      .ok (published, ids.version)) :
    (∀ version ∈ published.versions, version.status = .archived → ∀ old ∈ db.versions,
      old.id = version.id → NoLaterEnd version.effectiveTo old.effectiveTo) ↔
      ∀ version ∈ db.versions, version.programId = programId → version.status = .active →
        ∀ effectiveTo ∈ version.effectiveTo, times.now ≤ effectiveTo := by
  rcases publishVersion_eq_ok done with ⟨-, rows, -, tables⟩
  have distinct := db.consistent.catalogue.versionIds
  rw [tables]
  constructor
  · intro ends version versionMem ofProgram active effectiveTo ending
    have archived := ends { version with status := .archived, effectiveTo := some times.now }
      (List.mem_append_left _ (mem_archiveProgramVersions_iff.mpr
        (Or.inl ⟨version, versionMem, ⟨ofProgram, active⟩, rfl⟩)))
      rfl version versionMem rfl
    rw [Option.mem_def.mp ending] at archived
    simpa [NoLaterEnd] using archived
  · intro inForce version versionMem archived old oldMem same
    rcases List.mem_append.mp versionMem with versionMem | isNew
    · rcases mem_archiveProgramVersions_iff.mp versionMem with
        ⟨origin, originMem, ⟨ofProgram, active⟩, rfl⟩ | ⟨versionMem, -⟩
      · rw [List.inj_on_of_nodup_map distinct oldMem originMem same]
        cases ending : origin.effectiveTo with
        | none => trivial
        | some earlier =>
            exact ⟨times.now, rfl, inForce origin originMem ofProgram active earlier ending⟩
      · rw [List.inj_on_of_nodup_map distinct oldMem versionMem same]
        cases version.effectiveTo with
        | none => trivial
        | some earlier => exact ⟨earlier, rfl, le_rfl⟩
    · rw [List.mem_singleton.mp isNew] at archived
      simp [publishedVersion] at archived

/-- A publication succeeds and preserves the timeline exactly if the new rows fit and every
active version of the program is in force. -/
theorem publishVersion_preservesTimeline_iff :
    (∃ published, publishVersion db ids times programId payload semanticHash =
        .ok (published, ids.version) ∧
      PreservesTimeline programId times.now db.versions published.versions) ↔
      NewRowsFit db ids times programId payload semanticHash ∧
        ActiveInForce db.versions programId times.now := by
  constructor
  · rintro ⟨published, done, preserves⟩
    have succeeds := publishVersion_isOk_iff.mp ⟨published, done⟩
    have ends := (ends_publishVersion_iff done).mp preserves.ends
    refine ⟨succeeds.1, fun version versionMem ofProgram active => ⟨?_, ?_⟩⟩
    · exact succeeds.2 version versionMem ofProgram active
    · exact ends version versionMem ofProgram active
  · rintro ⟨fit, inForce⟩
    rcases publishVersion_isOk_iff.mpr ⟨fit, fun version versionMem ofProgram active =>
      (inForce version versionMem ofProgram active).1⟩ with ⟨published, done⟩
    refine ⟨published, done, ?_⟩
    constructor
    · intro version versionMem _
      exact published.consistent.catalogue.effectiveRanges version versionMem
    · exact (ends_publishVersion_iff done).mpr fun version versionMem ofProgram active =>
        (inForce version versionMem ofProgram active).2
    · exact ⟨_, active_publishVersion done, rfl⟩

end Publication

/-- The ids of a publication with one group, one condition and one outcome. -/
def archivingIds : PublicationIds :=
  ⟨11, 12, 13, fun _ => 14, fun _ _ => 15, fun _ _ => 16, 17, 18⟩

/-- A version to come makes a publication fail, and one that has ended is prolonged by it. -/
theorem publication_fails_or_prolongs :
    publishVersion sampleCatalogue archivingIds ⟨5, 5, 5⟩ 2 samplePayload "0123456789abcdef" =
        .error .integrityError ∧
      ∃ published, publishVersion sampleCatalogue archivingIds ⟨20, 20, 20⟩ 2 samplePayload
          "0123456789abcdef" = .ok (published, 13) ∧
        sampleVersion ∈ sampleCatalogue.versions ∧ sampleVersion.effectiveTo = some 10 ∧
        { sampleVersion with status := .archived, effectiveTo := some 20 } ∈
          published.versions ∧
        ¬ PreservesTimeline 2 20 sampleCatalogue.versions published.versions := by
  constructor
  · rfl
  · have succeeds : (publishVersion sampleCatalogue archivingIds ⟨20, 20, 20⟩ 2 samplePayload
        "0123456789abcdef").toOption.isSome := by
      decide +kernel
    rcases Option.isSome_iff_exists.mp succeeds with ⟨⟨published, versionId⟩, publishes⟩
    have publishing := toOption_eq_some_iff.mp publishes
    rcases publishVersion_eq_ok publishing with ⟨rfl, rows, -, tables⟩
    have stored : sampleVersion ∈ sampleCatalogue.versions := by
      simp [sampleCatalogue]
    have prolonged : { sampleVersion with status := .archived, effectiveTo := some 20 } ∈
        published.versions := by
      rw [tables]
      apply List.mem_append_left
      exact mem_archiveProgramVersions_iff.mpr (Or.inl ⟨sampleVersion, stored, ⟨rfl, rfl⟩, rfl⟩)
    refine ⟨published, publishing, stored, rfl, prolonged, fun preserves => ?_⟩
    have ends := preserves.ends _ prolonged rfl sampleVersion stored rfl
    revert ends
    simp [NoLaterEnd, sampleVersion]

end ImigrAI.Ingestion
