import ImigrAI.Assessments.Creation
import ImigrAI.Billing.AccessEffects

/-!
# What creating an assessment changes

The new rows are stored exactly when the constraints admit them; the job comes after, and
touches nothing but jobs and messages.
-/

namespace ImigrAI.Assessments.Creation

open Python Fallible Rows
open Billing (Settings DatabaseError consumeAssessmentQuota)

/-- Neither the id nor the version of the snapshot is taken. -/
def SnapshotFree (snapshot : UserProfileSnapshot) (tables : Tables) : Prop :=
  snapshot.id ∉ tables.snapshots.map (·.id) ∧
    (snapshot.userId, snapshot.snapshotVersion) ∉
      tables.snapshots.map fun old => (old.userId, old.snapshotVersion)

instance (snapshot : UserProfileSnapshot) : DecidablePred (SnapshotFree snapshot) :=
  fun _ => inferInstanceAs (Decidable (_ ∧ _))

/-- The program of the assessment is there, and neither its id nor its key is taken. -/
def AssessmentFree (assessment : Assessment) (tables : Tables) : Prop :=
  assessment.programId ∈ tables.programs ∧
    assessment.id ∉ tables.assessments.map (·.id) ∧
    (assessment.userId, assessment.idempotencyKey) ∉
      tables.assessments.map fun old => (old.userId, old.idempotencyKey)

instance (assessment : Assessment) : DecidablePred (AssessmentFree assessment) :=
  fun _ => inferInstanceAs (Decidable (_ ∧ _ ∧ _))

section Rows

variable {tables : Tables} {snapshot : UserProfileSnapshot} {assessment : Assessment}

/-- The tables with a snapshot more. -/
def Tables.addSnapshot (tables : Tables) (snapshot : UserProfileSnapshot) : Tables :=
  { tables with snapshots := tables.snapshots ++ [snapshot] }

/-- The tables with an assessment more. -/
def Tables.addAssessment (tables : Tables) (assessment : Assessment) : Tables :=
  { tables with assessments := tables.assessments ++ [assessment] }

theorem consistent_addSnapshot_iff (consistent : Consistent tables) :
    Consistent (tables.addSnapshot snapshot) ↔ SnapshotFree snapshot tables := by
  constructor
  · intro added
    exact ⟨(nodup_map_append_singleton.mp added.snapshotIds).1,
      (nodup_map_append_singleton.mp added.snapshotVersions).1⟩
  · rintro ⟨idFree, versionFree⟩
    refine ⟨?_, ?_, consistent.assessmentIds, consistent.assessmentKeys,
      consistent.assessmentPrograms, ?_, consistent.jobIds, consistent.jobKeys,
      consistent.jobAssessments⟩
    · exact nodup_map_append_singleton.mpr ⟨idFree, consistent.snapshotIds⟩
    · exact nodup_map_append_singleton.mpr ⟨versionFree, consistent.snapshotVersions⟩
    · intro assessment mem
      have stored := consistent.assessmentSnapshots assessment mem
      simp [Tables.addSnapshot, List.mem_map.mp stored]

theorem consistent_addAssessment_iff (consistent : Consistent tables)
    (snapshotMem : assessment.profileSnapshotId ∈ tables.snapshots.map (·.id)) :
    Consistent (tables.addAssessment assessment) ↔ AssessmentFree assessment tables := by
  constructor
  · intro added
    refine ⟨added.assessmentPrograms assessment (by simp [Tables.addAssessment]), ?_, ?_⟩
    · exact (nodup_map_append_singleton.mp added.assessmentIds).1
    · exact (nodup_map_append_singleton.mp added.assessmentKeys).1
  · rintro ⟨program, idFree, keyFree⟩
    refine ⟨consistent.snapshotIds, consistent.snapshotVersions, ?_, ?_, ?_, ?_,
      consistent.jobIds, consistent.jobKeys, ?_⟩
    · exact nodup_map_append_singleton.mpr ⟨idFree, consistent.assessmentIds⟩
    · exact nodup_map_append_singleton.mpr ⟨keyFree, consistent.assessmentKeys⟩
    · intro other mem
      rcases List.mem_append.mp mem with old | new
      · exact consistent.assessmentPrograms other old
      · rw [List.mem_singleton.mp new]
        exact program
    · intro other mem
      rcases List.mem_append.mp mem with old | new
      · exact consistent.assessmentSnapshots other old
      · rw [List.mem_singleton.mp new]
        exact snapshotMem
    · intro job mem
      have refers := consistent.jobAssessments job mem
      cases target : job.assessmentId with
      | none => trivial
      | some id =>
          rw [target] at refers
          have stored : id ∈ tables.assessments.map (·.id) := refers
          have kept : id ∈ (tables.addAssessment assessment).assessments.map (·.id) := by
            rw [Tables.addAssessment, List.map_append]
            exact List.mem_append_left _ stored
          exact kept

theorem consistent_addBoth_iff (consistent : Consistent tables)
    (same : assessment.profileSnapshotId = snapshot.id) :
    Consistent ((tables.addSnapshot snapshot).addAssessment assessment) ↔
      SnapshotFree snapshot tables ∧ AssessmentFree assessment tables := by
  have snapshotMem : assessment.profileSnapshotId ∈
      (tables.addSnapshot snapshot).snapshots.map (·.id) := by
    simp [Tables.addSnapshot, same]
  constructor
  · intro added
    have withSnapshot : Consistent (tables.addSnapshot snapshot) := by
      refine ⟨added.snapshotIds, added.snapshotVersions, ?_, ?_, ?_, ?_, added.jobIds,
        added.jobKeys, consistent.jobAssessments⟩
      · exact consistent.assessmentIds
      · exact consistent.assessmentKeys
      · exact consistent.assessmentPrograms
      · intro other mem
        exact added.assessmentSnapshots other (List.mem_append_left _ mem)
    exact ⟨(consistent_addSnapshot_iff consistent).mp withSnapshot,
      (consistent_addAssessment_iff withSnapshot snapshotMem).mp added⟩
  · rintro ⟨snapshotFree, assessmentFree⟩
    have withSnapshot := (consistent_addSnapshot_iff consistent).mpr snapshotFree
    exact (consistent_addAssessment_iff withSnapshot snapshotMem).mpr assessmentFree

end Rows

section Storing

variable {users : List UUID}

theorem flushFor_eq_ok_iff {userId : UUID} {tables : Tables} {stored : Store} :
    flushFor users userId tables = .ok stored ↔ userId ∈ users ∧ stored.val = tables := by
  unfold flushFor
  split_ifs with userMem
  · rw [ensure_eq_ok_iff]
    simp [userMem]
  · simp [userMem]

theorem flushFor_of_met {userId : UUID} {tables : Tables} (userMem : userId ∈ users)
    (consistent : Consistent tables) : flushFor users userId tables = .ok ⟨tables, consistent⟩ := by
  rw [flushFor, if_pos userMem, ensure_of_met consistent]

variable [Hashlib] {meanwhile : Meanwhile} {store : Store}
  {call : CreationCall}

/-- The snapshot of the call, with the version after the latest one it has seen. -/
def CreationCall.ownSnapshot (meanwhile : Meanwhile) (store : Store) (call : CreationCall) :
    UserProfileSnapshot :=
  call.nextSnapshot (meanwhile.version store).val

/-- The constraints admit the snapshot when it is flushed, and the snapshot and the assessment
when these are. -/
structure Insertable (meanwhile : Meanwhile) (store : Store) (call : CreationCall) : Prop where
  flushed : SnapshotFree (call.ownSnapshot meanwhile store) (meanwhile.untilSnapshot store).val
  pending : SnapshotFree (call.ownSnapshot meanwhile store) (meanwhile.untilAssessment store).val
  assessment : AssessmentFree call.assessment (meanwhile.untilAssessment store).val

/-- The rows of the call are stored, or nothing is. -/
theorem storeAssessment_cases (users : List UUID) (meanwhile : Meanwhile) (store : Store)
    (call : CreationCall) :
    (Insertable meanwhile store call ∧ ∃ stored,
      storeAssessment users meanwhile store call = (stored, .ok call.assessment) ∧
        stored.val = ((meanwhile.untilAssessment store).val.addSnapshot
          (call.ownSnapshot meanwhile store)).addAssessment call.assessment) ∨
      ∃ error, storeAssessment users meanwhile store call =
        (meanwhile.untilAssessment store, .error error) := by
  unfold storeAssessment
  dsimp only
  split
  · next error _ => exact Or.inr ⟨error, rfl⟩
  · next flushed flushing =>
      split
      · next error _ => exact Or.inr ⟨error, rfl⟩
      · next stored storing =>
          rcases flushFor_eq_ok_iff.mp flushing with ⟨-, flushedTables⟩
          rcases flushFor_eq_ok_iff.mp storing with ⟨-, storedTables⟩
          have flushedFree : SnapshotFree (call.ownSnapshot meanwhile store)
              (meanwhile.untilSnapshot store).val := by
            apply (consistent_addSnapshot_iff (meanwhile.untilSnapshot store).property).mp
            have consistent := flushed.property
            rwa [flushedTables] at consistent
          have storedConsistent : Consistent (((meanwhile.untilAssessment store).val.addSnapshot
              (call.ownSnapshot meanwhile store)).addAssessment call.assessment) := by
            have consistent := stored.property
            rwa [storedTables] at consistent
          rcases consistent_addBoth_iff (meanwhile.untilAssessment store).property rfl |>.mp
            storedConsistent with ⟨pendingFree, assessmentFree⟩
          exact Or.inl ⟨⟨flushedFree, pendingFree, assessmentFree⟩, stored, rfl, storedTables⟩

/-- What the constraints admit is stored. -/
theorem storeAssessment_of_insertable (userMem : call.userId ∈ users)
    (insertable : Insertable meanwhile store call) :
    ∃ stored, storeAssessment users meanwhile store call = (stored, .ok call.assessment) := by
  have flushed := (consistent_addSnapshot_iff (meanwhile.untilSnapshot store).property).mpr
    insertable.flushed
  have stored : Consistent (((meanwhile.untilAssessment store).val.addSnapshot
      (call.ownSnapshot meanwhile store)).addAssessment call.assessment) :=
    (consistent_addBoth_iff (meanwhile.untilAssessment store).property rfl).mpr
      ⟨insertable.pending, insertable.assessment⟩
  have flushing : createProfileSnapshot users (meanwhile.untilSnapshot store)
      (call.ownSnapshot meanwhile store) = .ok ⟨_, flushed⟩ := flushFor_of_met userMem flushed
  have storing : createAssessmentRow users ((meanwhile.untilAssessment store).val.addSnapshot
      (call.ownSnapshot meanwhile store)) call.assessment = .ok ⟨_, stored⟩ :=
    flushFor_of_met userMem stored
  refine ⟨⟨_, stored⟩, ?_⟩
  unfold storeAssessment
  simp only [CreationCall.ownSnapshot, Tables.addSnapshot] at flushing storing
  simp only [flushing, storing]
  rfl

end Storing

section Queueing

variable {db : Database} {call : CreationCall} {assessment : Assessment} {priority : Bool}

/-- Queueing touches nothing but jobs and messages. -/
theorem queueAssessment_rest (db : Database) (call : CreationCall) (assessment : Assessment)
    (priority : Bool) :
    (queueAssessment db call assessment priority).1.billing = db.billing ∧
      ∃ jobs, (queueAssessment db call assessment priority).1.store.val =
        { db.store.val with jobs := jobs } := by
  unfold queueAssessment
  dsimp only
  split
  · exact ⟨rfl, db.store.val.jobs, rfl⟩
  · next store job getting =>
      refine ⟨rfl, ?_⟩
      unfold getOrCreateJob at getting
      split at getting
      · split at getting
        · rcases bind_eq_ok_iff.mp getting with ⟨stored, storing, done⟩
          cases done
          exact ⟨_, ensure_eq_ok_iff.mp storing⟩
        · cases getting
          exact ⟨db.store.val.jobs, rfl⟩
      · rcases bind_eq_ok_iff.mp getting with ⟨stored, storing, done⟩
        cases done
        exact ⟨_, ensure_eq_ok_iff.mp storing⟩

end Queueing

end ImigrAI.Assessments.Creation
