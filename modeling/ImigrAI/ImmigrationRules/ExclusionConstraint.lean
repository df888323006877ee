import ImigrAI.Foundations.Statements
import ImigrAI.ImmigrationRules.Services

/-!
# The exclusion constraint on active versions

The migration forbids two active versions of one program with a common instant, and the
database checks this after every UPDATE, while the service checks the state that it intends.
The UPDATEs of a flush are sent in the order of the ids, so a forced activation that is
allowed by the service passes exactly if the versions in its way come before the target.
-/

namespace ImigrAI.ImmigrationRules.Exclusion

open Python Fallible Rows Runs Sorting Statements

/-- The effective periods, without an end where it is null, have a common instant. -/
def Overlaps (first second : ProgramVersion) : Prop :=
  EndsAfter second.effectiveFrom first.effectiveTo ∧
    EndsAfter first.effectiveFrom second.effectiveTo

instance (first second : ProgramVersion) : Decidable (Overlaps first second) :=
  inferInstanceAs (Decidable (_ ∧ _))

/-- `ex_program_versions_active_no_overlap`. -/
def ActiveNoOverlap (versions : List ProgramVersion) : Prop :=
  ∀ first ∈ versions, ∀ second ∈ versions, first.status = .active → second.status = .active →
    first.programId = second.programId → first.id ≠ second.id → ¬ Overlaps first second

instance : DecidablePred ActiveNoOverlap := fun versions =>
  inferInstanceAs (Decidable (∀ first ∈ versions, ∀ second ∈ versions, _))

/-- The constraints of the migrated database. -/
@[mk_iff]
structure Constraints (tables : Tables) : Prop where
  consistent : Consistent tables
  noOverlap : ActiveNoOverlap tables.versions

instance : DecidablePred Constraints := fun tables => decidable_of_iff' _ (constraints_iff tables)

/-- Tables that meet the constraints of the migrated database. -/
abbrev Store := {tables : Tables // Constraints tables}

/-- The same tables where the exclusion constraint is not declared. -/
def Store.database (store : Store) : Database := ⟨store.val, store.property.consistent⟩

/-- The UPDATE of one version. -/
def updateRow (tables : Tables) (row : ProgramVersion) : Tables :=
  { tables with versions := replaceRow (·.id) row tables.versions }

/-- The flush of a session in which these rows have their attributes set: rows without a net
change are not sent, and the others in the order of their primary keys. -/
def flushVersions (store : Store) (rows : List ProgramVersion) : Except ServiceError Store :=
  sendAll updateRow .integrityError store
    (sortBy (·.id) (rows.filter fun row => row ∉ store.val.versions))

/-- The row that an update leads to, unless it puts a null where none may stand. -/
def row? (pending : PendingVersion) : Option ProgramVersion := do
  some {
    id := pending.id
    programId := pending.programId
    version := ← pending.version
    status := ← pending.status
    effectiveFrom := ← pending.effectiveFrom
    effectiveTo := pending.effectiveTo
    createdAt := pending.createdAt }

def flushPending (pending : PendingVersion) (store : Store) : Except ServiceError Store :=
  match row? pending with
  | some row => flushVersions store [row]
  | none => .error .integrityError

def commitAndRefresh : Except ServiceError Store → Except ServiceError Store
  | .error .integrityError => .error (.http 409 "Integrity constraint violation")
  | flushed => flushed

/-- `update_program_version` on the migrated database. -/
def updateProgramVersion (store : Store) (programVersionId : UUID)
    (payload : ProgramVersionUpdate) : Except ServiceError Store := do
  match ← getProgramVersion store.val programVersionId with
  | none => .error programVersionNotFound
  | some row =>
  let pending := payload.apply row
  if pending.status = some .active then
    match pending.effectiveFrom with
    | none => .error .argumentError
    | some effectiveFrom =>
    -- Raised by the flush before the query, a violation is not handled.
    let flushed ← flushPending pending store
    match ← findActiveOverlap flushed.val pending.programId (some pending.id) effectiveFrom
      pending.effectiveTo with
    | some _ => .error .missingGreenlet
    | none => commitAndRefresh (.ok flushed)
  else commitAndRefresh (flushPending pending store)

/-- The rows that a forced activation sets to archived. -/
def archivedOthers (target : ProgramVersion) (versions : List ProgramVersion) :
    List ProgramVersion :=
  (versions.filter fun version => version.programId = target.programId ∧
    version.status = .active ∧ version.id ≠ target.id).map fun version =>
      { version with status := .archived }

/-- The rows whose status an activation sets. -/
def activationRows (archiving : Bool) (target : ProgramVersion) (versions : List ProgramVersion) :
    List ProgramVersion :=
  (if archiving then archivedOthers target versions else []) ++ [{ target with status := .active }]

/-- `activate_program_version` on the migrated database. -/
def activateProgramVersion (store : Store) (programVersionId : UUID)
    (payload : ProgramVersionActivateRequest) : Except ServiceError Store := do
  match ← getProgramVersion store.val programVersionId with
  | none => .error programVersionNotFound
  | some target =>
  let overlap ← findActiveOverlap store.val target.programId (some target.id)
    target.effectiveFrom target.effectiveTo
  if overlap.isSome ∧ ¬ payload.force then
    .error (.http 409 ("Activation would overlap with another active version. " ++
      "Set force=true to archive conflicting active versions first."))
  else
    commitAndRefresh
      (flushVersions store (activationRows overlap.isSome target store.val.versions))

inductive VersionCall where
  | update (id : UUID) (payload : ProgramVersionUpdate)
  | activate (id : UUID) (payload : ProgramVersionActivateRequest)

/-- What the call commits when its own checks decide alone. -/
def VersionCall.intended (db : Database) : VersionCall → Except ServiceError Database
  | .update id payload => ImmigrationRules.updateProgramVersion db id payload
  | .activate id payload => ImmigrationRules.activateProgramVersion db id payload

def VersionCall.execute (store : Store) : VersionCall → Except ServiceError Store
  | .update id payload => updateProgramVersion store id payload
  | .activate id payload => activateProgramVersion store id payload

/-- Where the state that the call intends keeps the exclusion constraint, no statement on the
way there violates it and the state is committed. -/
def Agrees (store : Store) (call : VersionCall) : Prop :=
  ∀ final, call.intended store.database = .ok final → ActiveNoOverlap final.versions →
    ∃ committed, call.execute store = .ok committed ∧ committed.database = final

/-- When a forced activation finds a version in its way, all active versions of the program
that overlap the target come before it in the order of the ids. -/
def ArchivedFirst (tables : Tables) : VersionCall → Prop
  | .update _ _ => True
  | .activate id payload => payload.force → ∀ target ∈ tables.versions, target.id = id →
      ∀ overlap, findActiveOverlap tables target.programId (some target.id) target.effectiveFrom
        target.effectiveTo = .ok (some overlap) →
      ∀ version ∈ tables.versions, version.programId = target.programId →
        version.status = .active → version.id ≠ target.id → Overlaps version target →
        version.id < target.id

/-- The instants of the effective period. -/
def span (version : ProgramVersion) : Set Instant :=
  {instant | version.effectiveFrom ≤ instant ∧ EndsAfter instant version.effectiveTo}

theorem endsAfter_of_le {instant earlier : Instant} {column : Option Instant}
    (ends : EndsAfter instant column) (before : earlier ≤ instant) : EndsAfter earlier column := by
  cases column with
  | none => trivial
  | some column => exact lt_of_le_of_lt before ends

/-- For rows that meet the check of the effective range, the comparison of the bounds is the
common instant. -/
theorem overlaps_iff_nonempty {first second : ProgramVersion}
    (firstRange : EndsAfter first.effectiveFrom first.effectiveTo)
    (secondRange : EndsAfter second.effectiveFrom second.effectiveTo) :
    Overlaps first second ↔ (span first ∩ span second).Nonempty := by
  constructor
  · rintro ⟨secondStart, firstStart⟩
    rcases le_total first.effectiveFrom second.effectiveFrom with before | before
    · exact ⟨second.effectiveFrom, ⟨before, secondStart⟩, le_rfl, secondRange⟩
    · exact ⟨first.effectiveFrom, ⟨le_rfl, firstRange⟩, before, firstStart⟩
  · rintro ⟨instant, ⟨firstBefore, firstEnds⟩, secondBefore, secondEnds⟩
    exact ⟨endsAfter_of_le firstEnds secondBefore, endsAfter_of_le secondEnds firstBefore⟩

theorem Overlaps.symm {first second : ProgramVersion} (overlaps : Overlaps first second) :
    Overlaps second first :=
  And.symm overlaps

theorem commitAndRefresh_eq_ok_iff {flushed : Except ServiceError Store} {store : Store} :
    commitAndRefresh flushed = .ok store ↔ flushed = .ok store := by
  rcases flushed with (_ | _) | _ <;> simp [commitAndRefresh]

/-- A version but for its status. -/
def withoutStatus (version : ProgramVersion) : ProgramVersion := { version with status := .draft }

/-- Only the exclusion constraint looks at the status. -/
theorem consistent_of_map_withoutStatus {tables : Tables} {versions : List ProgramVersion}
    (consistent : Consistent tables)
    (same : versions.map withoutStatus = tables.versions.map withoutStatus) :
    Consistent { tables with versions := versions } := by
  have column {Column : Type} (read : ProgramVersion → Column) :
      versions.map (fun version => read (withoutStatus version)) =
        tables.versions.map fun version => read (withoutStatus version) := by
    have mapped := congrArg (List.map read) same
    rwa [List.map_map, List.map_map] at mapped
  refine consistent_of_versions consistent (column (·.id))
    (column fun version => (version.programId, version.version)) ?_
  intro version mem
  have mapped : withoutStatus version ∈ versions.map withoutStatus := List.mem_map_of_mem mem
  rw [same] at mapped
  rcases List.mem_map.mp mapped with ⟨old, oldMem, sameOld⟩
  have range := consistent.catalogue.effectiveRanges old oldMem
  rw [show version.effectiveFrom = old.effectiveFrom from
      (congrArg ProgramVersion.effectiveFrom sameOld).symm,
    show version.effectiveTo = old.effectiveTo from
      (congrArg ProgramVersion.effectiveTo sameOld).symm]
  exact range

theorem run_updateRow (tables : Tables) (rows : List ProgramVersion) :
    run updateRow tables rows = { tables with
      versions := run (fun versions row => replaceRow (·.id) row versions) tables.versions rows } := by
  induction rows generalizing tables with
  | nil => rfl
  | cons row rest ih => rw [run_cons, ih, run_cons]; rfl

theorem mem_archivedOthers {target row : ProgramVersion} {versions : List ProgramVersion} :
    row ∈ archivedOthers target versions ↔ ∃ version ∈ versions,
      version.programId = target.programId ∧ version.status = .active ∧
        version.id ≠ target.id ∧ { version with status := .archived } = row := by
  simp only [archivedOthers, List.mem_map, List.mem_filter, decide_eq_true_eq, and_assoc]

theorem mem_activationRows {archiving : Bool} {target row : ProgramVersion}
    {versions : List ProgramVersion} :
    row ∈ activationRows archiving target versions ↔
      archiving = true ∧ row ∈ archivedOthers target versions ∨
        row = { target with status := .active } := by
  cases archiving <;> simp [activationRows]

section Activation

variable {store : Store} {target : ProgramVersion} {archiving : Bool}

theorem eq_of_id_eq {first second : ProgramVersion} (firstMem : first ∈ store.val.versions)
    (secondMem : second ∈ store.val.versions) (same : first.id = second.id) : first = second :=
  List.inj_on_of_nodup_map store.property.consistent.catalogue.versionIds firstMem secondMem same

/-- Every row that an activation sets is a stored one but for its status. -/
theorem activationRows_stored {versions : List ProgramVersion} (targetMem : target ∈ versions) :
    ∀ row ∈ activationRows archiving target versions, ∃ version ∈ versions,
      version.id = row.id ∧ withoutStatus version = withoutStatus row := by
  intro row mem
  rcases mem_activationRows.mp mem with ⟨-, archived⟩ | rfl
  · rcases mem_archivedOthers.mp archived with ⟨version, versionMem, -, -, -, rfl⟩
    exact ⟨version, versionMem, rfl, rfl⟩
  · exact ⟨target, targetMem, rfl, rfl⟩

theorem activationRows_distinct {versions : List ProgramVersion}
    (ids : (versions.map (·.id)).Nodup) :
    ((activationRows archiving target versions).map (·.id)).Nodup := by
  rw [activationRows, List.map_append, List.nodup_append]
  refine ⟨?_, by simp, ?_⟩
  · cases archiving with
    | false => simp
    | true =>
        simp only [if_true, archivedOthers, List.map_map]
        exact (List.filter_sublist.map _).nodup ids
  · intro id archived other isTarget same
    rw [List.map_singleton, List.mem_singleton] at isTarget
    cases archiving with
    | false => simp at archived
    | true =>
        rcases List.mem_map.mp archived with ⟨row, rowMem, rfl⟩
        rcases mem_archivedOthers.mp rowMem with ⟨version, -, -, -, different, rfl⟩
        exact different (same.trans isTarget)

/-- The rows that the flush sends, in their order. -/
def sentRows (archiving : Bool) (target : ProgramVersion) (store : Store) : List ProgramVersion :=
  sortBy (·.id) ((activationRows archiving target store.val.versions).filter
    fun row => row ∉ store.val.versions)

theorem mem_sentRows {row : ProgramVersion} :
    row ∈ sentRows archiving target store ↔
      row ∈ activationRows archiving target store.val.versions ∧ row ∉ store.val.versions := by
  simp [sentRows]

theorem sentRows_distinct : ((sentRows archiving target store).map (·.id)).Nodup := by
  have permuted := (sortBy_perm (·.id) ((activationRows archiving target store.val.versions).filter
    fun row => row ∉ store.val.versions)).map (·.id)
  apply permuted.nodup_iff.mpr
  exact (List.filter_sublist.map _).nodup
    (activationRows_distinct store.property.consistent.catalogue.versionIds)

/-- An archived row is never stored already. -/
theorem archived_mem_sentRows {version : ProgramVersion} (versionMem : version ∈ store.val.versions)
    (ofProgram : version.programId = target.programId) (active : version.status = .active)
    (other : version.id ≠ target.id) :
    { version with status := .archived } ∈ sentRows true target store := by
  refine mem_sentRows.mpr ⟨?_, ?_⟩
  · refine mem_activationRows.mpr (Or.inl ⟨rfl, ?_⟩)
    exact mem_archivedOthers.mpr ⟨version, versionMem, ofProgram, active, other, rfl⟩
  · intro stored
    have same := eq_of_id_eq stored versionMem rfl
    rw [← same] at active
    cases active

variable (targetMem : target ∈ store.val.versions) {sent : List ProgramVersion}
  (part : sent <+: sentRows archiving target store)

include targetMem part

theorem mem_run_sent {row : ProgramVersion} :
    row ∈ (run updateRow store.val sent).versions ↔
      row ∈ sent ∨ row ∈ store.val.versions ∧ row.id ∉ sent.map (·.id) := by
  rw [run_updateRow]
  apply mem_run_replaceRow
  · exact (part.sublist.map _).nodup sentRows_distinct
  · intro update updateMem
    rcases activationRows_stored targetMem update (mem_sentRows.mp (part.subset updateMem)).1 with
      ⟨version, versionMem, same, -⟩
    exact List.mem_map.mpr ⟨version, versionMem, same⟩

theorem map_withoutStatus_run_sent :
    (run updateRow store.val sent).versions.map withoutStatus =
      store.val.versions.map withoutStatus := by
  rw [run_updateRow]
  apply map_run_replaceRow
  intro update updateMem old oldMem same
  rcases activationRows_stored targetMem update (mem_sentRows.mp (part.subset updateMem)).1 with
    ⟨version, versionMem, sameId, sameColumns⟩
  rw [eq_of_id_eq oldMem versionMem (same.trans sameId.symm)]
  exact sameColumns

theorem consistent_run_sent : Consistent (run updateRow store.val sent) := by
  have columns := map_withoutStatus_run_sent targetMem part
  rw [run_updateRow] at columns ⊢
  exact consistent_of_map_withoutStatus store.property.consistent columns

/-- An active version after some of the UPDATEs is the target, or one not yet updated. -/
theorem of_active_sent {row : ProgramVersion}
    (mem : row ∈ (run updateRow store.val sent).versions) (active : row.status = .active) :
    row ∈ sent ∧ row = { target with status := .active } ∨
      row ∈ store.val.versions ∧ row.id ∉ sent.map (·.id) := by
  rcases (mem_run_sent targetMem part).mp mem with rowSent | kept
  · rcases mem_activationRows.mp (mem_sentRows.mp (part.subset rowSent)).1 with ⟨-, archived⟩ | same
    · rcases mem_archivedOthers.mp archived with ⟨version, -, -, -, -, rfl⟩
      cases active
    · exact Or.inl ⟨rowSent, same⟩
  · exact Or.inr kept

/-- The constraint holds after some of the UPDATEs if, once the target's is among them, the
ones that archive what overlaps it are. -/
theorem noOverlap_run_sent
    (archivedBefore : { target with status := .active } ∈ sent →
      ∀ version ∈ store.val.versions, version.programId = target.programId →
        version.status = .active → version.id ≠ target.id → Overlaps version target →
        version.id ∈ sent.map (·.id)) :
    ActiveNoOverlap (run updateRow store.val sent).versions := by
  -- What stands beside the updated target has not been updated.
  have besideTarget : { target with status := .active } ∈ sent → ∀ version,
      version ∈ store.val.versions → version.id ∉ sent.map (·.id) → version.status = .active →
      version.programId = target.programId → version.id ≠ target.id →
      ¬ Overlaps version target := by
    intro targetSent version versionMem kept active ofProgram other overlaps
    exact kept (archivedBefore targetSent version versionMem ofProgram active other overlaps)
  intro first firstMem second secondMem firstActive secondActive sameProgram different
  rcases of_active_sent targetMem part firstMem firstActive with
    ⟨firstSent, rfl⟩ | ⟨firstStored, firstKept⟩
  · rcases of_active_sent targetMem part secondMem secondActive with
      ⟨-, rfl⟩ | ⟨secondStored, secondKept⟩
    · exact absurd rfl different
    · intro overlaps
      exact besideTarget firstSent second secondStored secondKept secondActive sameProgram.symm
        different.symm (Overlaps.symm overlaps)
  · rcases of_active_sent targetMem part secondMem secondActive with
      ⟨secondSent, rfl⟩ | ⟨secondStored, -⟩
    · exact besideTarget secondSent first firstStored firstKept firstActive sameProgram different
    · exact store.property.noOverlap first firstStored second secondStored firstActive
        secondActive sameProgram different

end Activation

section Outcome

variable {store : Store} {target : ProgramVersion} (targetMem : target ∈ store.val.versions)

include targetMem

/-- The versions that an activation intends. -/
def intendedVersions (archiving : Bool) (target : ProgramVersion)
    (versions : List ProgramVersion) : List ProgramVersion :=
  replaceRow (·.id) { target with status := .active }
    (if archiving then archiveOthers target versions else versions)

omit targetMem in
theorem map_withoutStatus_archiveOthers (target : ProgramVersion) (versions : List ProgramVersion) :
    (archiveOthers target versions).map withoutStatus = versions.map withoutStatus := by
  rw [archiveOthers, List.map_map]
  apply List.map_congr_left
  intro version _
  rw [Function.comp_apply]
  split_ifs <;> rfl

theorem map_withoutStatus_intendedVersions (archiving : Bool) :
    (intendedVersions archiving target store.val.versions).map withoutStatus =
      store.val.versions.map withoutStatus := by
  have others : (if archiving then archiveOthers target store.val.versions
      else store.val.versions).map withoutStatus = store.val.versions.map withoutStatus := by
    cases archiving with
    | false => rfl
    | true => exact map_withoutStatus_archiveOthers target store.val.versions
  rw [intendedVersions, map_replaceRow, others]
  intro old oldMem same
  have mapped : withoutStatus old ∈ store.val.versions.map withoutStatus := by
    rw [← others]
    exact List.mem_map_of_mem oldMem
  rcases List.mem_map.mp mapped with ⟨version, versionMem, sameColumns⟩
  have isTarget : version.id = target.id := (congrArg ProgramVersion.id sameColumns).trans same
  rw [← sameColumns, eq_of_id_eq versionMem targetMem isTarget]
  rfl

omit targetMem in
theorem map_id_of_map_withoutStatus {versions others : List ProgramVersion}
    (same : versions.map withoutStatus = others.map withoutStatus) :
    versions.map (·.id) = others.map (·.id) := by
  have ids := congrArg (List.map (·.id)) same
  rwa [List.map_map, List.map_map] at ids

theorem mem_intendedVersions {archiving : Bool} {row : ProgramVersion} :
    row ∈ intendedVersions archiving target store.val.versions ↔
      row = { target with status := .active } ∨
        row ∈ (if archiving then archiveOthers target store.val.versions
          else store.val.versions) ∧ row.id ≠ target.id := by
  apply mem_replaceRow_iff
  refine ⟨target, ?_, rfl⟩
  cases archiving with
  | false => exact targetMem
  | true => exact mem_archiveOthers targetMem fun _ => rfl

/-- A version that is neither archived nor activated is intended as it is. -/
theorem mem_intendedVersions_of_not_sent {archiving : Bool} {version : ProgramVersion}
    (versionMem : version ∈ store.val.versions)
    (notSent : version.id ∉ (sentRows archiving target store).map (·.id)) :
    version ∈ intendedVersions archiving target store.val.versions := by
  apply (mem_intendedVersions targetMem).mpr
  by_cases isTarget : version.id = target.id
  · -- The target itself is not sent where it is active already.
    have stored : { target with status := .active } ∈ store.val.versions := by
      by_contra notStored
      apply notSent
      rw [isTarget]
      have sent : { target with status := .active } ∈ sentRows archiving target store :=
        mem_sentRows.mpr ⟨mem_activationRows.mpr (Or.inr rfl), notStored⟩
      exact List.mem_map_of_mem (f := (·.id)) sent
    exact Or.inl (eq_of_id_eq versionMem stored isTarget)
  · refine Or.inr ⟨?_, isTarget⟩
    cases archiving with
    | false => exact versionMem
    | true =>
        refine List.mem_map.mpr ⟨version, versionMem, if_neg ?_⟩
        rintro ⟨ofProgram, active, other⟩
        have sent := archived_mem_sentRows versionMem ofProgram active other
        exact notSent (List.mem_map_of_mem (f := (·.id)) sent)

theorem mem_intendedVersions_of_sent {archiving : Bool} {row : ProgramVersion}
    (sent : row ∈ sentRows archiving target store) :
    row ∈ intendedVersions archiving target store.val.versions := by
  apply (mem_intendedVersions targetMem).mpr
  rcases mem_activationRows.mp (mem_sentRows.mp sent).1 with ⟨rfl, archived⟩ | same
  · rcases mem_archivedOthers.mp archived with ⟨version, versionMem, ofProgram, active, other, rfl⟩
    refine Or.inr ⟨?_, other⟩
    exact List.mem_map.mpr ⟨version, versionMem, if_pos ⟨ofProgram, active, other⟩⟩
  · exact Or.inl same

/-- Sent one by one, the updates lead to the versions that the activation intends. -/
theorem run_sentRows (archiving : Bool) :
    run updateRow store.val (sentRows archiving target store) =
      { store.val with versions := intendedVersions archiving target store.val.versions } := by
  have whole : sentRows archiving target store <+: sentRows archiving target store :=
    List.prefix_rfl
  have runIds := map_id_of_map_withoutStatus (map_withoutStatus_run_sent targetMem whole)
  have intendedIds :=
    map_id_of_map_withoutStatus (map_withoutStatus_intendedVersions targetMem archiving)
  have versions : (run updateRow store.val (sentRows archiving target store)).versions =
      intendedVersions archiving target store.val.versions := by
    apply eq_of_map_key_eq (runIds.trans intendedIds.symm)
    · rw [intendedIds]
      exact store.property.consistent.catalogue.versionIds
    · intro row mem
      rcases (mem_run_sent targetMem whole).mp mem with sent | ⟨stored, notSent⟩
      · exact mem_intendedVersions_of_sent targetMem sent
      · exact mem_intendedVersions_of_not_sent targetMem stored notSent
  rw [← versions, run_updateRow]

theorem getProgramVersion_of_mem :
    getProgramVersion store.val target.id = .ok (some target) :=
  scalarOneOrNone_filter_key store.property.consistent.catalogue.versionIds targetMem

variable {payload : ProgramVersionActivateRequest} {overlap : Option ProgramVersion}
  (query : findActiveOverlap store.val target.programId (some target.id) target.effectiveFrom
    target.effectiveTo = .ok overlap)
  (allowed : overlap.isSome → payload.force)

include query allowed

/-- Once its checks have passed, the service commits what it intends where only the other
constraints are declared. -/
theorem intended_activate :
    ∃ final, ImmigrationRules.activateProgramVersion store.database target.id payload = .ok final ∧
      final.versions = intendedVersions overlap.isSome target store.val.versions := by
  have consistent := consistent_of_map_withoutStatus store.property.consistent
    (map_withoutStatus_intendedVersions targetMem overlap.isSome)
  refine ⟨⟨_, consistent⟩, ?_, rfl⟩
  refine bind_eq_ok_iff.mpr ⟨some target, getProgramVersion_of_mem targetMem, ?_⟩
  refine bind_eq_ok_iff.mpr ⟨overlap, query, ?_⟩
  rw [if_neg fun refused => refused.2 (allowed refused.1)]
  exact ImmigrationRules.commitAndRefresh_eq_ok_iff.mpr (flush_eq_ok_iff.mpr rfl)

/-- Once its checks have passed, an activation commits exactly if the constraint holds after
every part of its updates. -/
theorem activateProgramVersion_eq_ok_iff {committed : Store} :
    activateProgramVersion store target.id payload = .ok committed ↔
      (∀ sent, sent <+: sentRows overlap.isSome target store →
        ActiveNoOverlap (run updateRow store.val sent).versions) ∧
      committed.val = { store.val with
        versions := intendedVersions overlap.isSome target store.val.versions } := by
  have reached : activateProgramVersion store target.id payload =
      commitAndRefresh
        (flushVersions store (activationRows overlap.isSome target store.val.versions)) := by
    rw [activateProgramVersion, getProgramVersion_of_mem targetMem]
    dsimp only [bind, Except.bind]
    rw [query]
    exact if_neg fun refused => refused.2 (allowed refused.1)
  rw [reached, commitAndRefresh_eq_ok_iff, flushVersions, ← sentRows, sendAll_eq_ok_iff,
    run_sentRows targetMem]
  refine and_congr_left fun _ => forall₂_congr fun sent part => ?_
  exact ⟨Constraints.noOverlap, Constraints.mk (consistent_run_sent targetMem part)⟩

end Outcome

/-- An activation that archives what is in its way intends a state that keeps the constraint. -/
theorem noOverlap_intendedVersions {store : Store} {target : ProgramVersion}
    (targetMem : target ∈ store.val.versions) :
    ActiveNoOverlap (intendedVersions true target store.val.versions) := by
  have noOverlap := noOverlap_run_sent targetMem (List.prefix_rfl (l := sentRows true target store))
    fun _ version versionMem ofProgram active other _ =>
      List.mem_map_of_mem (f := (·.id)) (archived_mem_sentRows versionMem ofProgram active other)
  rwa [run_sentRows targetMem] at noOverlap

/-- When the constraint holds after every part of the updates, what overlaps the target is
archived before the target is activated. -/
theorem archivedFirst_of_sent {store : Store} {target version : ProgramVersion}
    {archiving : Bool} (targetMem : target ∈ store.val.versions)
    (holds : ∀ sent, sent <+: sentRows archiving target store →
      ActiveNoOverlap (run updateRow store.val sent).versions)
    (versionMem : version ∈ store.val.versions) (ofProgram : version.programId = target.programId)
    (active : version.status = .active) (other : version.id ≠ target.id)
    (overlaps : Overlaps version target) : version.id < target.id := by
  by_contra notBefore
  have after : target.id < version.id := lt_of_le_of_ne (not_lt.mp notBefore) other.symm
  -- An active target would have met the version already.
  have notStored : { target with status := .active } ∉ store.val.versions := by
    intro stored
    exact store.property.noOverlap version versionMem _ stored active rfl ofProgram other overlaps
  have targetRow : { target with status := .active } ∈
      (activationRows archiving target store.val.versions).filter
        fun row => row ∉ store.val.versions := by
    simpa [notStored] using mem_activationRows.mpr (Or.inr rfl)
  rcases exists_prefix_upTo (·.id) targetRow with ⟨sent, part, targetSent, upTo⟩
  have kept : version.id ∉ sent.map (·.id) := by
    intro updated
    rcases List.mem_map.mp updated with ⟨row, rowSent, same⟩
    have notAfter : row.id ≤ target.id := upTo row rowSent
    rw [same] at notAfter
    exact absurd after (not_lt.mpr notAfter)
  exact holds sent part version ((mem_run_sent targetMem part).mpr (Or.inr ⟨versionMem, kept⟩)) _
    ((mem_run_sent targetMem part).mpr (Or.inl targetSent)) active rfl ofProgram other overlaps

theorem agrees_activate (store : Store) (id : UUID) (payload : ProgramVersionActivateRequest) :
    Agrees store (.activate id payload) ↔ ArchivedFirst store.val (.activate id payload) := by
  constructor
  · intro agrees force target targetMem isTarget overlap query version versionMem ofProgram active
      other overlaps
    subst isTarget
    have allowed : (some overlap).isSome → payload.force := fun _ => force
    rcases intended_activate targetMem query allowed with ⟨final, intended, versions⟩
    have noOverlap : ActiveNoOverlap final.versions := by
      rw [versions]
      exact noOverlap_intendedVersions targetMem
    rcases agrees final intended noOverlap with ⟨committed, done, -⟩
    have holds := ((activateProgramVersion_eq_ok_iff targetMem query allowed).mp done).1
    exact archivedFirst_of_sent targetMem holds versionMem ofProgram active other overlaps
  · intro archivedFirst final intended noOverlap
    rcases activateProgramVersion_eq_ok intended with
      ⟨target, targetMem, rfl, overlap, query, allowed, tables⟩
    have targetMem : target ∈ store.val.versions := targetMem
    refine ⟨⟨final.toTables, final.consistent, noOverlap⟩, ?_, rfl⟩
    refine (activateProgramVersion_eq_ok_iff targetMem query allowed).mpr ⟨?_, tables⟩
    intro sent part
    apply noOverlap_run_sent targetMem part
    intro targetSent version versionMem ofProgram active other overlaps
    cases overlap with
    | none =>
        -- Nothing is archived, so the version would stand beside the target at the end.
        have versions : final.versions = intendedVersions false target store.val.versions :=
          congrArg Tables.versions tables
        rw [versions] at noOverlap
        refine absurd overlaps (noOverlap version ?_ { target with status := .active } ?_ active rfl
          ofProgram other)
        · exact (mem_intendedVersions targetMem).mpr (Or.inr ⟨versionMem, other⟩)
        · exact (mem_intendedVersions targetMem).mpr (Or.inl rfl)
    | some overlap =>
        have before := archivedFirst (allowed rfl) target targetMem rfl overlap query version
          versionMem ofProgram active other overlaps
        have archived := archived_mem_sentRows versionMem ofProgram active other
        exact List.mem_map_of_mem (f := (·.id))
          (mem_prefix_of_lt part targetSent (mem_sortBy.mp archived) before)

theorem pendingFlush_eq_ok_iff {pending : PendingVersion} {tables : Tables} {db : Database} :
    pending.flush tables = .ok db ↔
      ∃ row, row? pending = some row ∧ db.toTables = updateRow tables row := by
  rcases pending with ⟨id, programId, version, status, effectiveFrom, effectiveTo, createdAt⟩
  cases version <;> cases status <;> cases effectiveFrom <;>
    simp [PendingVersion.flush, row?, updateRow, flush_eq_ok_iff]

/-- The only UPDATE of a flush passes if the state that it leads to meets the constraints. -/
theorem flushVersions_singleton {store : Store} {row : ProgramVersion}
    (met : Constraints (updateRow store.val row)) :
    flushVersions store [row] = .ok ⟨updateRow store.val row, met⟩ := by
  rw [flushVersions, sendAll_eq_ok_iff]
  by_cases stored : row ∈ store.val.versions
  · have unchanged : updateRow store.val row = store.val := by
      rw [updateRow, replaceRow_self fun old oldMem same => eq_of_id_eq oldMem stored same]
    rw [List.filter_cons_of_neg (by simpa using stored)]
    refine ⟨?_, unchanged⟩
    intro sent part
    rw [List.prefix_nil.mp part]
    exact store.property
  · rw [List.filter_cons_of_pos (by simpa using stored)]
    refine ⟨?_, rfl⟩
    intro sent part
    rcases List.prefix_cons_iff.mp part with rfl | ⟨rest, rfl, partRest⟩
    · exact store.property
    · rw [List.prefix_nil.mp partRest]
      exact met

/-- A flush that only the other constraints are checked for, and whose state keeps the
exclusion constraint, passes with it. -/
theorem flushPending_eq_ok {store : Store} {pending : PendingVersion} {db : Database}
    (sent : pending.flush store.val = .ok db) (noOverlap : ActiveNoOverlap db.versions) :
    flushPending pending store = .ok ⟨db.toTables, db.consistent, noOverlap⟩ := by
  rcases pendingFlush_eq_ok_iff.mp sent with ⟨row, isRow, tables⟩
  have met : Constraints (updateRow store.val row) := by
    rw [← tables]
    exact ⟨db.consistent, noOverlap⟩
  rw [flushPending, isRow]
  exact (flushVersions_singleton met).trans (congrArg Except.ok (Subtype.ext tables.symm))

/-- An update sends one statement, after which the state is the intended one. -/
theorem agrees_update (store : Store) (id : UUID) (payload : ProgramVersionUpdate) :
    Agrees store (.update id payload) := by
  intro final intended noOverlap
  refine ⟨⟨final.toTables, final.consistent, noOverlap⟩, ?_, rfl⟩
  rcases bind_eq_ok_iff.mp intended with ⟨found, lookup, after⟩
  refine bind_eq_ok_iff.mpr ⟨found, lookup, ?_⟩
  cases found with
  | none => exact absurd after (by simp)
  | some row =>
      dsimp only at after ⊢
      split_ifs at after ⊢ with active
      · cases start : (payload.apply row).effectiveFrom with
        | none =>
            rw [start] at after
            exact absurd after (by simp)
        | some effectiveFrom =>
            rw [start] at after
            rcases bind_eq_ok_iff.mp after with ⟨flushed, sent, after⟩
            rcases bind_eq_ok_iff.mp after with ⟨overlap, query, after⟩
            cases overlap with
            | some overlap => exact absurd after (by simp)
            | none =>
                have same : flushed = final :=
                  Except.ok.inj (ImmigrationRules.commitAndRefresh_eq_ok_iff.mp after)
                subst same
                refine bind_eq_ok_iff.mpr ⟨_, flushPending_eq_ok sent noOverlap, ?_⟩
                exact bind_eq_ok_iff.mpr ⟨none, query, rfl⟩
      · have sent := ImmigrationRules.commitAndRefresh_eq_ok_iff.mp after
        exact commitAndRefresh_eq_ok_iff.mpr (flushPending_eq_ok sent noOverlap)

/-- The service's check and the database's constraint agree on a call exactly if, where a
forced activation finds a version in its way, the versions that overlap the target have ids
before its id. -/
theorem agrees_iff_archivedFirst (store : Store) (call : VersionCall) :
    Agrees store call ↔ ArchivedFirst store.val call := by
  cases call with
  | update id payload => exact iff_of_true (agrees_update store id payload) trivial
  | activate id payload => exact agrees_activate store id payload

/-- An active version without an end, and a draft that is to take over from it. -/
def sampleTables : Tables where
  countries := [⟨1, "CA", "Canada"⟩]
  programs := [⟨2, 1, "EXPRESS_ENTRY", "Express Entry", none, true⟩]
  versions := [⟨4, 2, "2024", .active, 0, none, 0⟩, ⟨3, 2, "2025", .draft, 10, none, 5⟩]
  ruleGroups := []
  sourceDocuments := []
  sourceExtractions := []

def sampleStore : Store := ⟨sampleTables, by decide⟩

theorem forced_activation_refused : ¬ Agrees sampleStore (.activate 3 ⟨true⟩) := by
  intro agrees
  have intended : ∃ final,
      VersionCall.intended sampleStore.database (.activate 3 ⟨true⟩) = .ok final ∧
        ActiveNoOverlap final.versions := by
    refine ⟨⟨{ sampleTables with versions :=
      [⟨4, 2, "2024", .archived, 0, none, 0⟩, ⟨3, 2, "2025", .active, 10, none, 5⟩] },
      by decide⟩, ?_, by decide⟩
    rfl
  rcases intended with ⟨final, intended, noOverlap⟩
  rcases agrees final intended noOverlap with ⟨committed, done, -⟩
  have refused : VersionCall.execute sampleStore (.activate 3 ⟨true⟩) =
      .error (.http 409 "Integrity constraint violation") := by rfl
  rw [refused] at done
  cases done

end ImigrAI.ImmigrationRules.Exclusion
