import ImigrAI.ImmigrationRules.ActiveVersions
import ImigrAI.ImmigrationRules.ExclusionConstraint

/-!
# Forced activation

A forced activation asks for one version in the way of the target and archives all active versions
of the program. So it does what it is for only if one version is active besides the target, or
none is in its way.
-/

namespace ImigrAI.ImmigrationRules.Forced

open Python Periods Rows

/-- Another active version of the target's program. -/
def OtherActive (target version : ProgramVersion) : Prop :=
  version.programId = target.programId ∧ version.status = .active ∧ version.id ≠ target.id

/-- Another active version of the program whose effective period overlaps the target's. -/
def Conflicts (target version : ProgramVersion) : Prop :=
  OtherActive target version ∧ version.period.Meets target.period

instance (target version : ProgramVersion) : Decidable (OtherActive target version) :=
  inferInstanceAs (Decidable (_ ∧ _ ∧ _))

instance (target version : ProgramVersion) : Decidable (Conflicts target version) :=
  inferInstanceAs (Decidable (_ ∧ _))

/-- The versions with the target active and some others archived. -/
def activatedVersions (archived : ProgramVersion → Prop) [DecidablePred archived]
    (target : ProgramVersion) (versions : List ProgramVersion) : List ProgramVersion :=
  versions.map fun version =>
    if version.id = target.id then { version with status := .active }
    else if archived version then { version with status := .archived } else version

/-- The forced activation of the target succeeds and archives exactly the conflicts. -/
def ArchivesConflicts (db : Database) (target : ProgramVersion) : Prop :=
  ∃ activated, activateProgramVersion db target.id ⟨true⟩ = .ok activated ∧
    activated.toTables = { db.toTables with
      versions := activatedVersions (Conflicts target) target db.versions }

/-- No version conflicts with the target, or one does and no version but this one and the target
is active in the program. -/
def AtMostConflict (db : Database) (target : ProgramVersion) : Prop :=
  (∀ version ∈ db.versions, ¬ Conflicts target version) ∨
    ∃ conflict ∈ db.versions, Conflicts target conflict ∧
      ∀ other ∈ db.versions, OtherActive target other → other = conflict

section Activation

variable {db : Database} {target : ProgramVersion}

/-- Two versions conflict exactly if they have an instant in common. -/
theorem conflicts_iff_not_disjoint (targetMem : target ∈ db.versions) {version : ProgramVersion}
    (versionMem : version ∈ db.versions) :
    Conflicts target version ↔ OtherActive target version ∧
      ¬ Disjoint version.period.instants target.period.instants :=
  and_congr_right fun _ => meets_iff_not_disjoint versionMem targetMem

theorem findActiveOverlap_eq (tables : Tables) (target : ProgramVersion) :
    findActiveOverlap tables target.programId (some target.id) target.effectiveFrom
        target.effectiveTo =
      scalarOneOrNone (tables.versions.filter fun version => Conflicts target version) := by
  rw [findActiveOverlap]
  congr 1
  apply List.filter_congr
  intro version _
  simp only [Conflicts, OtherActive, Period.Meets, ProgramVersion.period, ne_eq,
    Option.some.injEq, and_assoc]

/-- What is committed when the constraints allow it. -/
theorem activateProgramVersion_of_overlap (targetMem : target ∈ db.versions)
    {overlap : Option ProgramVersion}
    (query : scalarOneOrNone (db.versions.filter fun version => Conflicts target version) =
      .ok overlap) :
    activateProgramVersion db target.id ⟨true⟩ =
      commitAndRefresh (flush { db.toTables with
        versions := replaceRow (·.id) { target with status := .active }
          (if overlap.isSome then archiveOthers target db.versions else db.versions) }) := by
  have found : getProgramVersion db.toTables target.id = .ok (some target) :=
    scalarOneOrNone_filter_key db.consistent.catalogue.versionIds targetMem
  rw [activateProgramVersion, found]
  change (findActiveOverlap db.toTables target.programId _ _ _ >>= _) = _
  rw [findActiveOverlap_eq, query]
  simp [bind, Except.bind]

theorem activatedVersions_congr {archived other : ProgramVersion → Prop} [DecidablePred archived]
    [DecidablePred other] {versions : List ProgramVersion}
    (same : ∀ version ∈ versions, archived version ↔ other version) :
    activatedVersions archived target versions = activatedVersions other target versions := by
  apply List.map_congr_left
  intro version versionMem
  simp only [same version versionMem]

theorem withoutStatus_activatedVersions (archived : ProgramVersion → Prop)
    [DecidablePred archived] (target : ProgramVersion) (versions : List ProgramVersion) :
    (activatedVersions archived target versions).map Exclusion.withoutStatus =
      versions.map Exclusion.withoutStatus := by
  rw [activatedVersions, List.map_map]
  apply List.map_congr_left
  intro version _
  rw [Function.comp_apply]
  split_ifs <;> rfl

/-- The rows after the target was made active, and the others archived or not. -/
theorem replaceRow_activated (targetMem : target ∈ db.versions) (archiving : Bool) :
    replaceRow (·.id) { target with status := .active }
        (if archiving then archiveOthers target db.versions else db.versions) =
      activatedVersions (fun version => archiving ∧ OtherActive target version) target
        db.versions := by
  have isTarget : ∀ version ∈ db.versions, version.id = target.id → version = target :=
    fun version versionMem same =>
      List.inj_on_of_nodup_map db.consistent.catalogue.versionIds versionMem targetMem same
  cases archiving with
  | false =>
      rw [replaceRow]
      apply List.map_congr_left
      intro version versionMem
      by_cases same : version.id = target.id
      · simp [isTarget version versionMem same]
      · simp [same]
  | true =>
      rw [if_pos rfl, replaceRow, archiveOthers, List.map_map]
      apply List.map_congr_left
      intro version versionMem
      by_cases same : version.id = target.id
      · simp [isTarget version versionMem same]
      · by_cases other : OtherActive target version
        · simp [same, other, show version.programId = target.programId ∧
            version.status = .active from ⟨other.1, other.2.1⟩]
        · have kept : ¬ (version.programId = target.programId ∧ version.status = .active) :=
            fun both => other ⟨both.1, both.2, same⟩
          simp [same, other, kept]

/-- A forced activation succeeds unless several versions are in the way of the target. -/
theorem activateProgramVersion_eq_ok_of_overlap (targetMem : target ∈ db.versions)
    {overlap : Option ProgramVersion}
    (query : scalarOneOrNone (db.versions.filter fun version => Conflicts target version) =
      .ok overlap) :
    ∃ activated, activateProgramVersion db target.id ⟨true⟩ = .ok activated ∧
      activated.toTables = { db.toTables with
        versions := activatedVersions (fun version => overlap.isSome ∧ OtherActive target version)
          target db.versions } := by
  have consistent := Exclusion.consistent_of_map_withoutStatus db.consistent
    (withoutStatus_activatedVersions (fun version => overlap.isSome ∧ OtherActive target version)
      target db.versions)
  refine ⟨⟨_, consistent⟩, ?_, rfl⟩
  rw [activateProgramVersion_of_overlap targetMem query, replaceRow_activated targetMem,
    commitAndRefresh_eq_ok_iff, flush_eq_ok_iff]

/-- A forced activation does what it is for exactly if no version conflicts with the target, or
one does and no further version of the program is active. -/
theorem archivesConflicts_iff (targetMem : target ∈ db.versions) :
    ArchivesConflicts db target ↔ AtMostConflict db target := by
  constructor
  · rintro ⟨activated, done, tables⟩
    cases query : scalarOneOrNone (db.versions.filter fun version => Conflicts target version) with
    | error error =>
        have found : getProgramVersion db.toTables target.id = .ok (some target) :=
          scalarOneOrNone_filter_key db.consistent.catalogue.versionIds targetMem
        rw [activateProgramVersion, found] at done
        change (findActiveOverlap db.toTables target.programId _ _ _ >>= _) = _ at done
        rw [findActiveOverlap_eq, query] at done
        cases done
    | ok overlap =>
        rcases activateProgramVersion_eq_ok_of_overlap targetMem query with
          ⟨other, otherDone, otherTables⟩
        cases done.symm.trans otherDone
        have versions := congrArg Tables.versions (otherTables.symm.trans tables)
        cases overlap with
        | none => exact Or.inl (scalarOneOrNone_filter_eq_none.mp query)
        | some conflict =>
            rcases scalarOneOrNone_filter_eq_some query with ⟨conflictMem, conflicts, only⟩
            refine Or.inr ⟨conflict, conflictMem, conflicts, ?_⟩
            intro version versionMem otherActive
            have same := List.map_inj_left.mp versions version versionMem
            rw [if_neg otherActive.2.2, if_neg otherActive.2.2, if_pos ⟨rfl, otherActive⟩] at same
            by_contra different
            rw [if_neg fun conflicting => different (only version versionMem conflicting)] at same
            have status := congrArg ProgramVersion.status same
            rw [otherActive.2.1] at status
            cases status
  · rintro (noConflict | ⟨conflict, conflictMem, conflicts, only⟩)
    · rcases activateProgramVersion_eq_ok_of_overlap targetMem
        (scalarOneOrNone_filter_eq_none.mpr noConflict) with ⟨activated, done, tables⟩
      have same : activatedVersions (fun version => (none : Option ProgramVersion).isSome ∧
          OtherActive target version) target db.versions =
            activatedVersions (Conflicts target) target db.versions := by
        apply activatedVersions_congr
        intro version versionMem
        simp [noConflict version versionMem]
      exact ⟨activated, done, by rw [tables, same]⟩
    · have query : scalarOneOrNone (db.versions.filter fun version => Conflicts target version) =
          .ok (some conflict) := by
        rw [scalarOneOrNone_eq_some, ← List.perm_singleton]
        apply (List.perm_ext_iff_of_nodup
          (db.consistent.catalogue.versionIds.of_map.filter _) (List.nodup_singleton _)).mpr
        intro version
        rw [List.mem_filter, decide_eq_true_eq, List.mem_singleton]
        constructor
        · rintro ⟨versionMem, conflicting⟩
          exact only version versionMem conflicting.1
        · rintro rfl
          exact ⟨conflictMem, conflicts⟩
      rcases activateProgramVersion_eq_ok_of_overlap targetMem query with
        ⟨activated, done, tables⟩
      have same : activatedVersions (fun version => (some conflict).isSome ∧
          OtherActive target version) target db.versions =
            activatedVersions (Conflicts target) target db.versions := by
        apply activatedVersions_congr
        intro version versionMem
        constructor
        · rintro ⟨-, other⟩
          rw [only version versionMem other]
          exact conflicts
        · intro conflicting
          exact ⟨rfl, conflicting.1⟩
      exact ⟨activated, done, by rw [tables, same]⟩

end Activation

/-- A version between the two active ones of `sampleCatalogue`. -/
def spanningVersion : ProgramVersion := ⟨5, 2, "2023", .archived, 5, none, 5⟩

/-- The catalogue with the archived version ending before the second active one starts. -/
def endingCatalogue : Database where
  toTables := { sampleCatalogue.toTables with
    versions := [sampleVersion, ⟨4, 2, "2025", .active, 10, none, 5⟩,
      { spanningVersion with effectiveTo := some 8 }] }
  consistent := by decide

/-- Two conflicts make the activation fail, and one makes it archive a version that does not
overlap the target. -/
theorem forced_activation_fails_or_archives_too_much :
    (spanningVersion ∈ sampleCatalogue.versions ∧
      ¬ ArchivesConflicts sampleCatalogue spanningVersion) ∧
    { spanningVersion with effectiveTo := some 8 } ∈ endingCatalogue.versions ∧
      ¬ ArchivesConflicts endingCatalogue { spanningVersion with effectiveTo := some 8 } := by
  refine ⟨⟨by decide, ?_⟩, by decide, ?_⟩
  · rintro ⟨activated, done, -⟩
    have failing : activateProgramVersion sampleCatalogue 5 ⟨true⟩ =
        .error .multipleResultsFound := rfl
    cases failing.symm.trans done
  · rintro ⟨activated, done, tables⟩
    have statuses : ((activateProgramVersion endingCatalogue 5 ⟨true⟩).toOption.map
        fun activated => activated.versions.map (·.status)) =
          some [.archived, .archived, .active] := by
      decide
    have isDone : activateProgramVersion endingCatalogue 5 ⟨true⟩ = .ok activated := done
    rw [isDone, Except.toOption, Option.map_some, tables] at statuses
    exact absurd statuses (by decide)

theorem archivesConflicts_iff_sample :
    ArchivesConflicts sampleCatalogue sampleVersion ↔
      AtMostConflict sampleCatalogue sampleVersion :=
  archivesConflicts_iff (by decide)

end ImigrAI.ImmigrationRules.Forced
