import ImigrAI.Foundations.Periods
import ImigrAI.Foundations.Runs
import ImigrAI.ImmigrationRules.Services
import ImigrAI.Ingestion.Publisher

/-!
# Active versions are never in force together

The effective period of a version is half open, and a null end reads as the end of time. The
overlap query is an exact test for a common instant, and no call that writes versions makes
two active versions of one program have one.
-/

namespace ImigrAI.ImmigrationRules

open Python Periods Rows Runs

/-- The effective period. -/
def ProgramVersion.period (version : ProgramVersion) : Period Instant :=
  ⟨version.effectiveFrom, version.effectiveTo.getD endOfTime⟩

/-- Active versions of one program have disjoint effective periods. -/
def DisjointActive (versions : List ProgramVersion) : Prop :=
  DisjointLive ProgramVersion.id ProgramVersion.programId (fun version => version.status = .active)
    ProgramVersion.period versions

/-- Before the end of time, a null end and that end are after the same instants. -/
theorem endsAfter_iff {instant : Instant} {effectiveTo : Option Instant}
    (beforeEnd : instant < endOfTime) :
    EndsAfter instant effectiveTo ↔ instant < effectiveTo.getD endOfTime := by
  cases effectiveTo with
  | none => simp [EndsAfter, beforeEnd]
  | some effectiveTo => rfl

/-- The comparisons of the overlap query are exact for rows that meet the check of the
effective range, also for one that starts at the end of time. -/
theorem meets_iff_not_disjoint {db : Database} {first second : ProgramVersion}
    (firstMem : first ∈ db.versions) (secondMem : second ∈ db.versions) :
    first.period.Meets second.period ↔
      ¬ Disjoint first.period.instants second.period.instants := by
  have nonempty {version other : ProgramVersion} (mem : version ∈ db.versions)
      (before : version.effectiveFrom < other.effectiveTo.getD endOfTime) :
      version.period.start < version.period.stop := by
    have range := db.consistent.catalogue.effectiveRanges version mem
    cases ends : version.effectiveTo with
    | some effectiveTo =>
        rw [ends] at range
        simp only [ProgramVersion.period, ends, Option.getD_some]
        exact range
    | none =>
        simp only [ProgramVersion.period, ends, Option.getD_none]
        exact before.trans_le (Fin.le_last _)
  constructor
  · intro meets
    exact (Period.meets_iff_not_disjoint (nonempty firstMem meets.1)
      (nonempty secondMem meets.2)).mp meets
  · intro common
    by_contra apart
    exact common (Period.disjoint_of_not_meets apart)

/-- The query finds nothing exactly if the target's period is disjoint from those of the other
active versions of its program. -/
theorem findActiveOverlap_eq_none_iff {db : Database} {target : ProgramVersion}
    (targetMem : target ∈ db.versions) :
    findActiveOverlap db.toTables target.programId (some target.id) target.effectiveFrom
        target.effectiveTo = .ok none ↔
      ∀ version ∈ db.versions, version.programId = target.programId →
        version.status = .active → version.id ≠ target.id →
        Disjoint version.period.instants target.period.instants := by
  rw [findActiveOverlap_eq_none]
  refine forall₂_congr fun version versionMem => ?_
  refine forall₃_congr fun _ _ _ => ?_
  rw [← not_iff_not, ← meets_iff_not_disjoint versionMem targetMem, not_not]
  rfl

inductive Call where
  | createVersion (id : UUID) (createdAt : Instant) (payload : ProgramVersionCreate)
  | updateVersion (id : UUID) (payload : ProgramVersionUpdate)
  | activateVersion (id : UUID) (payload : ProgramVersionActivateRequest)
  | publishVersion (ids : Ingestion.PublicationIds) (times : Ingestion.PublicationTimes)
      (programId : UUID) (payload : Ingestion.NormalizedProgramPayload) (semanticHash : String)

def Call.execute (db : Database) : Call → Except ServiceError Database
  | createVersion id createdAt payload => createProgramVersion db id createdAt payload
  | updateVersion id payload => updateProgramVersion db id payload
  | activateVersion id payload => activateProgramVersion db id payload
  | publishVersion ids times programId payload semanticHash =>
      (Ingestion.publishVersion db ids times programId payload semanticHash).map Prod.fst

/-- A call that raises commits nothing. -/
def callStep (db : Database) (call : Call) : Database :=
  match call.execute db with
  | .ok committed => committed
  | .error _ => db

theorem disjointActive_updateProgramVersion {db updated : Database} {id : UUID}
    {payload : ProgramVersionUpdate} (disjoint : DisjointActive db.versions)
    (done : updateProgramVersion db id payload = .ok updated) :
    DisjointActive updated.versions := by
  rcases updateProgramVersion_eq_ok done with ⟨row, rfl, versions, noOverlap⟩
  apply DisjointLive.change disjoint
  · intro version versionMem _ other
    rw [versions] at versionMem
    rcases of_mem_replaceRow versionMem with rfl | ⟨versionMem, -⟩
    · exact absurd rfl other
    · exact versionMem
  · intro entry entryMem other otherMem entryActive otherActive sameProgram isRow otherId
    have entryRow : entry = row := by
      have mem := entryMem
      rw [versions] at mem
      rcases of_mem_replaceRow mem with same | ⟨-, different⟩
      · exact same
      · exact absurd isRow different
    subst entryRow
    exact ((findActiveOverlap_eq_none_iff entryMem).mp (noOverlap entryActive) other otherMem
      sameProgram.symm otherActive otherId).symm

theorem disjointActive_activateProgramVersion {db activated : Database} {id : UUID}
    {payload : ProgramVersionActivateRequest} (disjoint : DisjointActive db.versions)
    (done : activateProgramVersion db id payload = .ok activated) :
    DisjointActive activated.versions := by
  rcases activateProgramVersion_eq_ok done with
    ⟨target, targetMem, rfl, overlap, query, -, tables⟩
  rw [tables]
  -- An active row other than the target was there before, and is apart from the target.
  have kept : ∀ version, version ∈ replaceRow (·.id) { target with status := .active }
      (if overlap.isSome then archiveOthers target db.versions else db.versions) →
      version.status = .active → version.id ≠ target.id → version ∈ db.versions ∧
        (version.programId = target.programId →
          Disjoint version.period.instants target.period.instants) := by
    intro version versionMem active other
    rcases of_mem_replaceRow versionMem with rfl | ⟨versionMem, -⟩
    · exact absurd rfl other
    · cases overlap with
      | none =>
          exact ⟨versionMem, fun ofProgram =>
            (findActiveOverlap_eq_none_iff targetMem).mp query version versionMem ofProgram active
              other⟩
      | some overlapping =>
          rcases of_mem_archiveOthers versionMem active with ⟨oldMem, onlyTarget⟩
          exact ⟨oldMem, fun ofProgram => absurd (onlyTarget ofProgram) other⟩
  apply DisjointLive.change disjoint
  · intro version versionMem active other
    exact (kept version versionMem active other).1
  · intro entry entryMem other otherMem entryActive otherActive sameProgram isTarget otherId
    have entryRow : entry = { target with status := .active } := by
      rcases of_mem_replaceRow entryMem with same | ⟨-, different⟩
      · exact same
      · exact absurd isTarget different
    subst entryRow
    exact ((kept other otherMem otherActive otherId).2 sameProgram.symm).symm

theorem disjointActive_publishVersion {db published : Database} {ids : Ingestion.PublicationIds}
    {times : Ingestion.PublicationTimes} {programId versionId : UUID}
    {payload : Ingestion.NormalizedProgramPayload} {semanticHash : String}
    (disjoint : DisjointActive db.versions)
    (done : Ingestion.publishVersion db ids times programId payload semanticHash =
      .ok (published, versionId)) :
    DisjointActive published.versions := by
  rcases Ingestion.publishVersion_eq_ok done with ⟨-, rows, -, tables⟩
  have distinct := published.consistent.catalogue.versionIds
  rw [tables] at distinct ⊢
  have newId := (nodup_map_append_singleton.mp distinct).1
  -- An active row other than the new one was there before, and belongs to another program.
  have kept : ∀ version ∈ Ingestion.archiveProgramVersions programId times.now db.versions,
      version.status = .active → version ∈ db.versions ∧ version.programId ≠ programId :=
    fun version => Ingestion.of_mem_archiveProgramVersions
  apply DisjointLive.change disjoint
  · intro version versionMem active other
    rcases List.mem_append.mp versionMem with versionMem | new
    · exact (kept version versionMem active).1
    · rw [List.mem_singleton.mp new] at other
      exact absurd rfl other
  · intro entry entryMem other otherMem entryActive otherActive sameProgram isNew otherId
    rcases List.mem_append.mp otherMem with otherMem | new
    · rcases List.mem_append.mp entryMem with entryMem | entryNew
      · exact absurd (List.mem_map.mpr ⟨entry, entryMem, isNew⟩) newId
      · rw [List.mem_singleton.mp entryNew] at sameProgram
        exact absurd sameProgram.symm (kept other otherMem otherActive).2
    · rw [List.mem_singleton.mp new] at otherId
      exact absurd rfl otherId

theorem disjointActive_callStep (db : Database) (call : Call)
    (disjoint : DisjointActive db.versions) : DisjointActive (callStep db call).versions := by
  unfold callStep
  split
  · next committed done =>
      cases call with
      | createVersion id createdAt payload =>
          exact absurd done (createProgramVersion_ne_ok db id createdAt payload committed)
      | updateVersion id payload => exact disjointActive_updateProgramVersion disjoint done
      | activateVersion id payload => exact disjointActive_activateProgramVersion disjoint done
      | publishVersion ids times programId payload semanticHash =>
          rcases Fallible.map_eq_ok_iff.mp done with ⟨⟨published, versionId⟩, publishing, rfl⟩
          exact disjointActive_publishVersion disjoint publishing
  · exact disjoint

/-- After every call of any sequence, active versions of one program have disjoint periods. -/
theorem disjointActive_calls {db : Database} (disjoint : DisjointActive db.versions)
    (calls : List Call) :
    ∀ visited ∈ states callStep db calls, DisjointActive visited.versions :=
  invariant_states disjointActive_callStep disjoint calls

def sampleVersion : ProgramVersion := ⟨3, 2, "2024", .active, 0, some 10, 0⟩

/-- A program with an active version that ends, one that follows it, and an archived one. -/
def sampleCatalogue : Database where
  countries := [⟨1, "CA", "Canada"⟩]
  programs := [⟨2, 1, "EXPRESS_ENTRY", "Express Entry", none, true⟩]
  versions := [sampleVersion, ⟨4, 2, "2025", .active, 10, none, 5⟩,
    ⟨5, 2, "2023", .archived, 5, none, 5⟩]
  ruleGroups := [{
    id := 6
    programVersionId := 3
    code := "base"
    name := "Base"
    description := none
    priority := 100
    matchOperator := .all
    isActive := true
    conditions := []
    outcomes := [⟨7, ⟨false, 500, -2⟩, false, "Base rule.", none⟩] }]
  sourceDocuments := []
  sourceExtractions := []
  consistent := by decide

theorem disjointActive_sampleCatalogue : DisjointActive sampleCatalogue.versions := by
  intro first firstMem second secondMem firstActive secondActive sameProgram different
  apply Period.disjoint_of_not_meets
  revert first second
  decide

/-- The first version is made to end earlier, and the archived one to fill the gap. -/
def sampleCalls : List Call :=
  [.updateVersion 3 ⟨none, none, none, some (some 5)⟩,
    .updateVersion 5 ⟨none, none, none, some (some 10)⟩, .activateVersion 5 ⟨false⟩]

theorem disjointActive_calls_sample :
    ((run callStep sampleCatalogue sampleCalls).versions.map fun version =>
        (version.status, version.effectiveFrom, version.effectiveTo)) =
      [(.active, 0, some 5), (.active, 10, none), (.active, 5, some 10)] ∧
    DisjointActive (run callStep sampleCatalogue sampleCalls).versions :=
  ⟨by decide +kernel,
    disjointActive_calls disjointActive_sampleCatalogue sampleCalls _ (run_mem_states _ _)⟩

end ImigrAI.ImmigrationRules
