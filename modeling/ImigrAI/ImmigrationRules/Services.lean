import ImigrAI.Foundations.Fallible
import ImigrAI.Foundations.Rows
import ImigrAI.ImmigrationRules.Models

/-!
# Writing program versions

`ImmigrationRulesService.create_program_version`, `update_program_version` and
`activate_program_version`. Each call has its own session: it returns the database it has
committed, and when it raises nothing is committed. The id and the creation time of a new row
are arguments.
-/

namespace ImigrAI.ImmigrationRules

open Python Fallible Rows

def endOfTime : Instant := Fin.last _

structure ProgramVersionCreate where
  programId : UUID
  version : String
  status : ProgramVersionStatus
  effectiveFrom : Instant
  effectiveTo : Option Instant

/-- The fields that were set, each of which may have been set to null. -/
structure ProgramVersionUpdate where
  version : Option (Option String)
  status : Option (Option ProgramVersionStatus)
  effectiveFrom : Option (Option Instant)
  effectiveTo : Option (Option Instant)

structure ProgramVersionActivateRequest where
  force : Bool

def programVersionNotFound : ServiceError := .http 404 "Program version not found"

def getProgram (tables : Tables) (programId : UUID) :
    Except ServiceError (Option ImmigrationProgram) :=
  scalarOneOrNone (tables.programs.filter fun program => program.id = programId)

def getProgramVersion (tables : Tables) (programVersionId : UUID) :
    Except ServiceError (Option ProgramVersion) :=
  scalarOneOrNone (tables.versions.filter fun version => version.id = programVersionId)

def getProgramVersionByProgramAndVersion (tables : Tables) (programId : UUID) (label : String) :
    Except ServiceError (Option ProgramVersion) :=
  scalarOneOrNone (tables.versions.filter fun version =>
    version.programId = programId ∧ version.version = label)

/-- `find_active_overlap_for_program_version`, for a target with these values. The comparison
of the id with the id of a new row, which is null, holds of every row. -/
def findActiveOverlap (tables : Tables) (programId : UUID) (targetId : Option UUID)
    (effectiveFrom : Instant) (effectiveTo : Option Instant) :
    Except ServiceError (Option ProgramVersion) :=
  let targetEnd := effectiveTo.getD endOfTime
  scalarOneOrNone (tables.versions.filter fun version =>
    version.programId = programId ∧ version.status = .active ∧
      some version.id ≠ targetId ∧ version.effectiveFrom < targetEnd ∧
      effectiveFrom < version.effectiveTo.getD endOfTime)

/-- `_commit_and_refresh`, from the flush that the commit starts with. -/
def commitAndRefresh : Except ServiceError Database → Except ServiceError Database
  | .error .integrityError => .error (.http 409 "Integrity constraint violation")
  | flushed => flushed

/-- `await` on a value that cannot be awaited. -/
def awaitPlain {Result : Type} (_ : Result) : Except ServiceError Result := .error .typeError

/-- `create_program_version`. The repository method that makes the row is not a coroutine, so
awaiting its result raises and what follows is not reached. -/
def createProgramVersion (db : Database) (id : UUID) (createdAt : Instant)
    (payload : ProgramVersionCreate) : Except ServiceError Database := do
  match ← getProgram db.toTables payload.programId with
  | none => .error (.http 404 "Program not found")
  | some _ =>
  match ← getProgramVersionByProgramAndVersion db.toTables payload.programId payload.version with
  | some _ => .error (.http 409 "Version already exists for this program")
  | none =>
  let programVersion ← awaitPlain {
    id := id
    programId := payload.programId
    version := payload.version
    status := payload.status
    effectiveFrom := payload.effectiveFrom
    effectiveTo := payload.effectiveTo
    createdAt := createdAt : ProgramVersion }
  let added := { db.toTables with versions := db.versions ++ [programVersion] }
  if programVersion.status = .active then
    let flushed ← flush added
    match ← findActiveOverlap flushed.toTables programVersion.programId none
      programVersion.effectiveFrom programVersion.effectiveTo with
    | some overlap =>
        .error (.http 409 ("Cannot create active version with overlapping effective period " ++
          "(conflicts with version=" ++ overlap.version ++ ")"))
    | none => commitAndRefresh (.ok flushed)
  else commitAndRefresh (flush added)

/-- The loaded row after the attributes have been set. -/
structure PendingVersion where
  id : UUID
  programId : UUID
  version : Option String
  status : Option ProgramVersionStatus
  effectiveFrom : Option Instant
  effectiveTo : Option Instant
  createdAt : Instant

/-- The loop of `setattr` over the fields that were set. -/
def ProgramVersionUpdate.apply (payload : ProgramVersionUpdate) (row : ProgramVersion) :
    PendingVersion where
  id := row.id
  programId := row.programId
  version := payload.version.getD row.version
  status := payload.status.getD row.status
  effectiveFrom := payload.effectiveFrom.getD row.effectiveFrom
  effectiveTo := payload.effectiveTo.getD row.effectiveTo
  createdAt := row.createdAt

/-- Flushing an update; only `effective_to` is nullable. -/
def PendingVersion.flush (pending : PendingVersion) (tables : Tables) :
    Except ServiceError Database :=
  match pending.version, pending.status, pending.effectiveFrom with
  | some version, some status, some effectiveFrom =>
      ImmigrationRules.flush { tables with
        versions := replaceRow (·.id) {
          id := pending.id
          programId := pending.programId
          version := version
          status := status
          effectiveFrom := effectiveFrom
          effectiveTo := pending.effectiveTo
          createdAt := pending.createdAt } tables.versions }
  | _, _, _ => .error .integrityError

/-- `update_program_version`. The overlap query sends the update before it reads. -/
def updateProgramVersion (db : Database) (programVersionId : UUID)
    (payload : ProgramVersionUpdate) : Except ServiceError Database := do
  match ← getProgramVersion db.toTables programVersionId with
  | none => .error programVersionNotFound
  | some row =>
  let pending := payload.apply row
  if pending.status = some .active then
    match pending.effectiveFrom with
    | none =>
        -- `>` with a null on its right is refused when the query is built.
        .error .argumentError
    | some effectiveFrom =>
    let flushed ← pending.flush db.toTables
    match ← findActiveOverlap flushed.toTables pending.programId (some pending.id) effectiveFrom
      pending.effectiveTo with
    | some _ =>
        -- The rollback expires the overlapping row, whose label the message would load.
        .error .missingGreenlet
    | none => commitAndRefresh (.ok flushed)
  else commitAndRefresh (pending.flush db.toTables)

/-- The loop over the active versions of the target's program. -/
def archiveOthers (target : ProgramVersion) (versions : List ProgramVersion) :
    List ProgramVersion :=
  versions.map fun version =>
    if version.programId = target.programId ∧ version.status = .active ∧ version.id ≠ target.id
    then { version with status := .archived } else version

def activateProgramVersion (db : Database) (programVersionId : UUID)
    (payload : ProgramVersionActivateRequest) : Except ServiceError Database := do
  match ← getProgramVersion db.toTables programVersionId with
  | none => .error programVersionNotFound
  | some target =>
  let overlap ← findActiveOverlap db.toTables target.programId (some target.id)
    target.effectiveFrom target.effectiveTo
  if overlap.isSome ∧ ¬ payload.force then
    .error (.http 409 ("Activation would overlap with another active version. " ++
      "Set force=true to archive conflicting active versions first."))
  else
    let versions :=
      if overlap.isSome then archiveOthers target db.versions else db.versions
    commitAndRefresh (flush { db.toTables with
      versions := replaceRow (·.id) { target with status := .active } versions })

theorem commitAndRefresh_eq_ok_iff {flushed : Except ServiceError Database} {db : Database} :
    commitAndRefresh flushed = .ok db ↔ flushed = .ok db := by
  rcases flushed with (_ | _) | _ <;> simp [commitAndRefresh]

theorem getProgramVersion_eq_some {tables : Tables} {id : UUID} {row : ProgramVersion}
    (found : getProgramVersion tables id = .ok (some row)) :
    row ∈ tables.versions ∧ row.id = id :=
  have selected := scalarOneOrNone_filter_eq_some found
  ⟨selected.1, selected.2.1⟩

/-- No row is found exactly if every active version of the program but the target has its
period apart from the target's. -/
theorem findActiveOverlap_eq_none {tables : Tables} {programId id : UUID}
    {effectiveFrom : Instant} {effectiveTo : Option Instant} :
    findActiveOverlap tables programId (some id) effectiveFrom effectiveTo = .ok none ↔
      ∀ version ∈ tables.versions, version.programId = programId → version.status = .active →
        version.id ≠ id → ¬ (version.effectiveFrom < effectiveTo.getD endOfTime ∧
          effectiveFrom < version.effectiveTo.getD endOfTime) := by
  rw [findActiveOverlap, scalarOneOrNone_filter_eq_none]
  simp only [ne_eq, Option.some.injEq, not_and]

theorem createProgramVersion_ne_ok (db : Database) (id : UUID) (createdAt : Instant)
    (payload : ProgramVersionCreate) (created : Database) :
    createProgramVersion db id createdAt payload ≠ .ok created := by
  intro done
  rcases bind_eq_ok_iff.mp done with ⟨program, _, done⟩
  cases program with
  | none => exact absurd done (by simp)
  | some program =>
      rcases bind_eq_ok_iff.mp done with ⟨existing, _, done⟩
      cases existing with
      | none => exact absurd done (by simp [awaitPlain, bind, Except.bind])
      | some existing => exact absurd done (by simp)

theorem PendingVersion.flush_eq_ok {pending : PendingVersion} {tables : Tables} {db : Database}
    (done : pending.flush tables = .ok db) :
    ∃ row : ProgramVersion, row.id = pending.id ∧ row.programId = pending.programId ∧
      pending.status = some row.status ∧ pending.effectiveFrom = some row.effectiveFrom ∧
      pending.effectiveTo = row.effectiveTo ∧
      db.toTables = { tables with versions := replaceRow (·.id) row tables.versions } := by
  unfold PendingVersion.flush at done
  split at done
  · next version status effectiveFrom _ statusSome fromSome =>
      exact ⟨_, rfl, rfl, statusSome, fromSome, rfl, flush_eq_ok_iff.mp done⟩
  · exact absurd done (by simp)

/-- A successful update has replaced the row, and if the row is active then no other active
version of its program meets its period. -/
theorem updateProgramVersion_eq_ok {db updated : Database} {id : UUID}
    {payload : ProgramVersionUpdate} (done : updateProgramVersion db id payload = .ok updated) :
    ∃ row : ProgramVersion, row.id = id ∧
      updated.versions = replaceRow (·.id) row db.versions ∧
      (row.status = .active →
        findActiveOverlap updated.toTables row.programId (some id) row.effectiveFrom
          row.effectiveTo = .ok none) := by
  rcases bind_eq_ok_iff.mp done with ⟨found, lookup, after⟩
  clear done
  cases found with
  | none => exact absurd after (by simp)
  | some loaded =>
      rcases getProgramVersion_eq_some lookup with ⟨-, rfl⟩
      dsimp only at after
      split at after
      · next active =>
          split at after
          · exact absurd after (by simp)
          · next effectiveFrom fromSome =>
              rcases bind_eq_ok_iff.mp after with ⟨flushed, sent, after⟩
              rcases bind_eq_ok_iff.mp after with ⟨overlap, query, after⟩
              cases overlap with
              | some overlap => exact absurd after (by simp)
              | none =>
                  rcases Except.ok.inj (commitAndRefresh_eq_ok_iff.mp after) with rfl
                  rcases PendingVersion.flush_eq_ok sent with
                    ⟨row, rowId, rowProgram, -, rowFrom, rowTo, tables⟩
                  refine ⟨row, rowId, by rw [tables], fun _ => ?_⟩
                  rw [← rowTo, rowProgram, ← Option.some.inj (fromSome.symm.trans rowFrom)]
                  exact query
      · next inactive =>
          rcases PendingVersion.flush_eq_ok (commitAndRefresh_eq_ok_iff.mp after) with
            ⟨row, rowId, -, rowStatus, -, -, tables⟩
          refine ⟨row, rowId, by rw [tables], fun active => ?_⟩
          exact absurd (rowStatus.trans (by rw [active])) inactive

/-- A successful activation has archived the other active versions of the program, or no
other active version of the program meets the target's period. -/
theorem activateProgramVersion_eq_ok {db activated : Database} {id : UUID}
    {payload : ProgramVersionActivateRequest}
    (done : activateProgramVersion db id payload = .ok activated) :
    ∃ target ∈ db.versions, target.id = id ∧ ∃ overlap,
      findActiveOverlap db.toTables target.programId (some id) target.effectiveFrom
        target.effectiveTo = .ok overlap ∧
      (overlap.isSome → payload.force) ∧
      activated.toTables = { db.toTables with
        versions := replaceRow (·.id) { target with status := .active }
          (if overlap.isSome then archiveOthers target db.versions else db.versions) } := by
  rcases bind_eq_ok_iff.mp done with ⟨found, lookup, after⟩
  clear done
  cases found with
  | none => exact absurd after (by simp)
  | some target =>
      rcases getProgramVersion_eq_some lookup with ⟨targetMem, rfl⟩
      rcases bind_eq_ok_iff.mp after with ⟨overlap, query, after⟩
      split at after
      · exact absurd after (by simp)
      · next allowed =>
          refine ⟨target, targetMem, rfl, overlap, query, ?_, ?_⟩
          · simpa using allowed
          · exact flush_eq_ok_iff.mp (commitAndRefresh_eq_ok_iff.mp after)

theorem mem_archiveOthers {target version : ProgramVersion} {versions : List ProgramVersion}
    (mem : version ∈ versions)
    (kept : version.programId = target.programId → version.id = target.id) :
    version ∈ archiveOthers target versions :=
  List.mem_map.mpr ⟨version, mem, if_neg fun archived => archived.2.2 (kept archived.1)⟩

theorem of_mem_archiveOthers {target version : ProgramVersion} {versions : List ProgramVersion}
    (mem : version ∈ archiveOthers target versions) (active : version.status = .active) :
    version ∈ versions ∧ (version.programId = target.programId → version.id = target.id) := by
  rcases List.mem_map.mp mem with ⟨old, oldMem, rfl⟩
  split_ifs at active ⊢ with archived
  refine ⟨oldMem, fun ofProgram => ?_⟩
  by_contra other
  exact archived ⟨ofProgram, active, other⟩

end ImigrAI.ImmigrationRules
