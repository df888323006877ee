import ImigrAI.Foundations.Rows
import ImigrAI.ProfileMatch.Submissions

/-!
# Who owns a submission

A claim checks the row that it has read, and writes its owner later and without a lock. So two
claims that have both found a submission without an owner both write theirs. Results are shown to
nobody else but the users who submitted or claimed, and failed calls write nothing.
-/

namespace ImigrAI.ProfileMatch

open Python Runs Rows Function

/-- The columns that a claim does not write. -/
def ProfileMatchSubmission.unclaimed (submission : ProfileMatchSubmission) :
    ProfileMatchSubmission :=
  { submission with userId := none, claimedAt := none }

/-- Submissions and commits stay. -/
structure Grows (before after : Store) : Prop where
  rows : before.rows.map (·.unclaimed) ⊆ after.rows.map (·.unclaimed)
  events : before.events ⊆ after.events

theorem Grows.refl (store : Store) : Grows store store := ⟨fun _ mem => mem, fun _ mem => mem⟩

/-- The submission is stored, whoever owns it. -/
def Known (store : Store) (submission : ProfileMatchSubmission) : Prop :=
  submission.unclaimed ∈ store.rows.map (·.unclaimed)

/-- The user has submitted it while logged in, or claimed it with its guest session. -/
def Granted (store : Store) (user submissionId : UUID) : Prop :=
  .submitted submissionId (some user) ∈ store.events ∨
    ∃ submission, Known store submission ∧ submission.id = submissionId ∧
      .claimed submissionId user submission.guestSessionId ∈ store.events

section Grows

variable {before after : Store}

theorem Known.mono (grows : Grows before after) {submission : ProfileMatchSubmission}
    (known : Known before submission) : Known after submission :=
  grows.rows known

theorem Granted.mono (grows : Grows before after) {user submissionId : UUID}
    (granted : Granted before user submissionId) : Granted after user submissionId := by
  rcases granted with submitted | ⟨submission, known, isSubmission, claimed⟩
  · exact Or.inl (grows.events submitted)
  · exact Or.inr ⟨submission, known.mono grows, isSubmission, grows.events claimed⟩

theorem unclaimed_writeOwner (submissionId user : UUID) (now : Instant)
    (rows : List ProfileMatchSubmission) :
    (writeOwner submissionId user now rows).map (·.unclaimed) = rows.map (·.unclaimed) := by
  rw [writeOwner, List.map_map]
  apply List.map_congr_left
  intro row _
  rw [Function.comp_apply]
  split_ifs <;> rfl

theorem grows_claim (store : Store) (request : ClaimRequest)
    (submission : ProfileMatchSubmission) : Grows store (claim store request submission).1 := by
  constructor
  · simp [claim, unclaimed_writeOwner]
  · simp [claim]

theorem grows_createSubmission (store : Store) (request : SubmitRequest) :
    Grows store (createSubmission store request).1 := by
  rw [createSubmission]
  split_ifs
  · exact Grows.refl store
  · constructor <;> simp

theorem grows_advance (store : Store) (call : Call) (phase : Phase) :
    Grows store (advance store call phase).1 := by
  fun_cases advance store call phase with
  | case1 => exact grows_createSubmission store _
  | case5 => exact grows_claim store _ _
  | _ => exact Grows.refl store

end Grows

/-- The results that an answer shows. -/
def Answer.Shows : Answer → ProfileMatchResultRead → Prop
  | .submitted _ _ shown, read => shown = some read
  | .result shown, read => shown = read

/-- What a call has read is stored, and what it has shown its user was granted to the user. -/
def Holds (store : Store) (call : Call) : Phase → Prop
  | .called | .raised _ | .loaded none => True
  | .submitted submission => ∀ user ∈ call.user, Granted store user submission.id
  | .loaded (some submission) => Known store submission ∧
      ∀ owner ∈ submission.userId, Granted store owner submission.id
  | .claiming submission => Known store submission ∧
      ∀ request, call = .claimSubmission request → submission.guestSessionId = request.guestSessionId
  | .claimed submission => ∀ user ∈ call.user, Granted store user submission.id
  | .returned answer => ∀ result, answer.Shows result →
      ∃ user ∈ call.user, Granted store user result.submissionId

theorem Holds.mono {before after : Store} (grows : Grows before after) {call : Call}
    {phase : Phase} (holds : Holds before call phase) : Holds after call phase := by
  cases phase with
  | called => trivial
  | raised error => trivial
  | submitted submission => exact fun user isUser => (holds user isUser).mono grows
  | loaded found =>
      cases found with
      | none => trivial
      | some submission =>
          exact ⟨holds.1.mono grows, fun owner isOwner => (holds.2 owner isOwner).mono grows⟩
  | claiming submission => exact ⟨holds.1.mono grows, holds.2⟩
  | claimed submission => exact fun user isUser => (holds user isUser).mono grows
  | returned answer =>
      intro result shows
      rcases holds result shows with ⟨user, isUser, granted⟩
      exact ⟨user, isUser, granted.mono grows⟩

/-- Every owner of a row has been granted it. -/
def OwnersGranted (store : Store) : Prop :=
  ∀ row ∈ store.rows, ∀ owner ∈ row.userId, Granted store owner row.id

section Advance

variable {store : Store}

theorem refresh_id (rows : List ProfileMatchSubmission) (submission : ProfileMatchSubmission) :
    (refresh rows submission).id = submission.id := by
  rw [refresh, getSubmission]
  cases found : rows.find? fun row => decide (row.id = submission.id) with
  | none => rfl
  | some row => simpa using List.find?_some found

theorem holds_loaded (granted : OwnersGranted store) (call : Call) (submissionId : UUID) :
    Holds store call (.loaded (getSubmission store.rows submissionId)) := by
  cases found : getSubmission store.rows submissionId with
  | none => trivial
  | some submission =>
      have mem : submission ∈ store.rows := List.mem_of_find?_eq_some found
      exact ⟨List.mem_map_of_mem mem, granted submission mem⟩

theorem holds_checkClaim {request : ClaimRequest} {found : Option ProfileMatchSubmission}
    (holds : Holds store (.claimSubmission request) (.loaded found)) :
    Holds store (.claimSubmission request) (checkClaim request found) := by
  cases found with
  | none => trivial
  | some submission =>
      rw [checkClaim]
      split
      · split_ifs with other
        · trivial
        · refine ⟨holds.1, ?_⟩
          rintro _ ⟨⟩
          exact not_not.mp other
      · rename_i owner isOwner
        split_ifs with other
        · trivial
        · rintro result ⟨⟩
          exact ⟨owner, by simp [Call.user, not_not.mp other], holds.2 owner isOwner⟩

theorem holds_checkResults {submissionId user : UUID} {found : Option ProfileMatchSubmission}
    (holds : Holds store (.getResults submissionId user) (.loaded found)) :
    Holds store (.getResults submissionId user) (checkResults user found) := by
  cases found with
  | none => trivial
  | some submission =>
      rw [checkResults]
      split_ifs with other
      · trivial
      · rintro result ⟨⟩
        exact ⟨user, rfl, holds.2 user (not_not.mp other)⟩

theorem holds_createSubmission (request : SubmitRequest) :
    Holds (createSubmission store request).1 (.submitProfile request)
      (createSubmission store request).2 := by
  rw [createSubmission]
  split_ifs
  · trivial
  · intro user isUser
    have current : request.currentUser = some user := isUser
    simp [Granted, newSubmission, current]

/-- Guests are not shown a result. -/
theorem holds_submitRead {request : SubmitRequest} {submission : ProfileMatchSubmission}
    (holds : Holds store (.submitProfile request) (.submitted submission)) :
    Holds store (.submitProfile request)
      (.returned (submitRead store.rows request submission)) := by
  intro read shows
  cases current : request.currentUser with
  | none => simp [submitRead, Answer.Shows, current] at shows
  | some user =>
      have shown : toResultRead (refresh store.rows submission) = read := by
        simpa [submitRead, Answer.Shows, current] using shows
      refine ⟨user, current, ?_⟩
      rw [← shown]
      have isGranted := holds user current
      rwa [← refresh_id store.rows submission] at isGranted

theorem ownersGranted_createSubmission (granted : OwnersGranted store) (request : SubmitRequest) :
    OwnersGranted (createSubmission store request).1 := by
  have grows := grows_createSubmission store request
  rw [createSubmission] at grows ⊢
  split_ifs at grows ⊢
  · exact granted
  · intro row rowMem owner isOwner
    rcases List.mem_append.mp rowMem with rowMem | isNew
    · exact (granted row rowMem owner isOwner).mono grows
    · rw [List.mem_singleton.mp isNew] at isOwner ⊢
      have current : request.currentUser = some owner := isOwner
      simp [Granted, newSubmission, current]

/-- The guest session of a claim was checked on the row that it holds. -/
theorem granted_claim {request : ClaimRequest} {submission : ProfileMatchSubmission}
    (holds : Holds store (.claimSubmission request) (.claiming submission)) :
    Granted (claim store request submission).1 request.user submission.id := by
  refine Or.inr ⟨submission, holds.1.mono (grows_claim store request submission), rfl, ?_⟩
  simp [claim, holds.2 request rfl]

theorem ownersGranted_claim (granted : OwnersGranted store) {request : ClaimRequest}
    {submission : ProfileMatchSubmission}
    (holds : Holds store (.claimSubmission request) (.claiming submission)) :
    OwnersGranted (claim store request submission).1 := by
  intro row rowMem owner isOwner
  rcases List.mem_map.mp rowMem with ⟨old, oldMem, rfl⟩
  split_ifs at isOwner ⊢ with written
  · cases isOwner
    rw [written]
    exact granted_claim holds
  · exact (granted old oldMem owner isOwner).mono (grows_claim store request submission)

theorem ownersGranted_advance (granted : OwnersGranted store) {call : Call} {phase : Phase}
    (holds : Holds store call phase) : OwnersGranted (advance store call phase).1 := by
  fun_cases advance store call phase with
  | case1 request => exact ownersGranted_createSubmission granted request
  | case5 request submission => exact ownersGranted_claim granted holds
  | _ => exact granted

theorem holds_advance (granted : OwnersGranted store) {call : Call} {phase : Phase}
    (holds : Holds store call phase) :
    Holds (advance store call phase).1 call (advance store call phase).2 := by
  fun_cases advance store call phase with
  | case1 request => exact holds_createSubmission request
  | case2 request submission => exact holds_submitRead holds
  | case3 request => exact holds_loaded granted _ _
  | case4 request found => exact holds_checkClaim holds
  | case5 request submission =>
      rintro user ⟨⟩
      exact granted_claim holds
  | case6 request submission =>
      rintro read ⟨⟩
      refine ⟨request.user, rfl, ?_⟩
      have isGranted := holds request.user rfl
      rwa [← refresh_id store.rows submission] at isGranted
  | case7 submissionId user => exact holds_loaded granted _ _
  | case8 submissionId user found => exact holds_checkResults holds
  | case9 => exact holds

/-- The call has committed what it writes. -/
def Phase.Settled : Phase → Prop
  | .submitted _ | .claimed _ | .returned _ => True
  | _ => False

theorem rows_advance (store : Store) (call : Call) (phase : Phase) :
    (advance store call phase).1.rows = store.rows ∨ (advance store call phase).2.Settled := by
  fun_cases advance store call phase with
  | case1 request =>
      rw [createSubmission]
      split_ifs
      · exact Or.inl rfl
      · exact Or.inr trivial
  | case5 request submission => exact Or.inr trivial
  | _ => exact Or.inl rfl

theorem settled_advance (store : Store) (call : Call) {phase : Phase} (settled : phase.Settled) :
    (advance store call phase).2.Settled := by
  fun_cases advance store call phase with
  | case2 => trivial
  | case6 => trivial
  | case9 => exact settled
  | _ => cases settled

end Advance

variable {Caller : Type} [DecidableEq Caller] {calls : Caller → Call}

/-- Ids are unique, owners were granted their rows, and calls hold what is so. -/
structure Sound (calls : Caller → Call) (state : State Caller) : Prop where
  ids : (state.store.rows.map (·.id)).Nodup
  owners : OwnersGranted state.store
  phases : ∀ caller, Holds state.store (calls caller) (state.phases caller)

theorem ids_writeOwner (submissionId user : UUID) (now : Instant)
    (rows : List ProfileMatchSubmission) :
    (writeOwner submissionId user now rows).map (·.id) = rows.map (·.id) := by
  have same := congrArg (List.map (·.id)) (unclaimed_writeOwner submissionId user now rows)
  simpa [List.map_map, ProfileMatchSubmission.unclaimed, Function.comp_def] using same

theorem ids_advance {store : Store} (ids : (store.rows.map (·.id)).Nodup) (call : Call)
    (phase : Phase) : ((advance store call phase).1.rows.map (·.id)).Nodup := by
  fun_cases advance store call phase with
  | case1 request =>
      rw [createSubmission]
      split_ifs with taken
      · exact ids
      · exact nodup_map_append_singleton.mpr ⟨taken, ids⟩
  | case5 request submission =>
      rw [claim, ids_writeOwner]
      exact ids
  | _ => exact ids

theorem sound_step (state : State Caller) (caller : Caller) (sound : Sound calls state) :
    Sound calls (step calls state caller) := by
  have holds := sound.phases caller
  constructor
  · exact ids_advance sound.ids _ _
  · exact ownersGranted_advance sound.owners holds
  · intro other
    by_cases same : other = caller
    · rw [same, phases_step_self, store_step]
      exact holds_advance sound.owners holds
    · rw [phases_step_of_ne same, store_step]
      exact (sound.phases other).mono (grows_advance _ _ _)

omit [DecidableEq Caller] in
theorem sound_initial : Sound calls initial :=
  ⟨List.nodup_nil, by simp [OwnersGranted, initial], fun _ => trivial⟩

/-- A call that has committed does not fail any more. -/
theorem settled_run {state : State Caller} {caller : Caller}
    (settled : (state.phases caller).Settled) (callers : List Caller) :
    ((run (step calls) state callers).phases caller).Settled := by
  induction callers generalizing state with
  | nil => exact settled
  | cons other rest ih =>
      apply ih
      by_cases same : caller = other
      · subst same
        rw [phases_step_self]
        exact settled_advance _ _ settled
      · rwa [phases_step_of_ne same]

/-- The steps of a call that fails in the end leave the table as it is. -/
theorem rows_step_of_raised {state : State Caller} {caller : Caller} {later : List Caller}
    {error : ServiceError}
    (raised : (run (step calls) (step calls state caller) later).phases caller = .raised error) :
    (step calls state caller).store.rows = state.store.rows := by
  rcases rows_advance state.store (calls caller) (state.phases caller) with same | settled
  · exact same
  · rw [← phases_step_self] at settled
    have settledLater := @settled_run _ _ calls _ _ settled later
    rw [raised] at settledLater
    exact settledLater.elim

/-- The user owns the submission, since the instant of the claim if it was claimed. -/
def Owned (submissionId user : UUID) (claimedAt : Option Instant) (state : State Caller) : Prop :=
  ∃ row ∈ state.store.rows, row.id = submissionId ∧ row.userId = some user ∧
    row.claimedAt = claimedAt

/-- The claim that the next step of a call writes, with the row that it was checked on. -/
def nextClaim (calls : Caller → Call) (state : State Caller) (caller : Caller) :
    Option (ClaimRequest × ProfileMatchSubmission) :=
  match calls caller, state.phases caller with
  | .claimSubmission request, .claiming submission => some (request, submission)
  | _, _ => none

/-- A claim is written only where there is no owner yet, or the same owner since the same
instant. -/
def KeepsOwner (calls : Caller → Call) (state : State Caller) (caller : Caller) : Prop :=
  ∀ request submission, nextClaim calls state caller = some (request, submission) →
    ∀ row ∈ state.store.rows, row.id = submission.id → ∀ owner, row.userId = some owner →
      owner = request.user ∧ row.claimedAt = some request.now

theorem subset_rows_advance {store : Store} {call : Call} {phase : Phase}
    (noClaim : ∀ request submission, call = .claimSubmission request →
      phase ≠ .claiming submission) :
    store.rows ⊆ (advance store call phase).1.rows := by
  fun_cases advance store call phase with
  | case1 request =>
      rw [createSubmission]
      split_ifs <;> simp
  | case5 request submission => exact absurd rfl (noClaim request submission rfl)
  | _ => exact fun _ mem => mem

omit [DecidableEq Caller] in
theorem nextClaim_eq_some_iff {state : State Caller} {caller : Caller} {request : ClaimRequest}
    {submission : ProfileMatchSubmission} :
    nextClaim calls state caller = some (request, submission) ↔
      calls caller = .claimSubmission request ∧ state.phases caller = .claiming submission := by
  rw [nextClaim]
  split
  · rename_i isClaim isClaiming
    simp [isClaim, isClaiming]
  · rename_i other
    simpa using other request submission

theorem owned_step_iff {submissionId user : UUID} {claimedAt : Option Instant}
    (state : State Caller) (caller : Caller) (owned : Owned submissionId user claimedAt state) :
    Owned submissionId user claimedAt (step calls state caller) ↔
      ∀ request submission, nextClaim calls state caller = some (request, submission) →
        submission.id = submissionId → user = request.user ∧ claimedAt = some request.now := by
  rcases owned with ⟨row, rowMem, isRow, isOwner, since⟩
  cases next : nextClaim calls state caller with
  | none =>
      have kept : row ∈ (step calls state caller).store.rows := by
        apply subset_rows_advance _ rowMem
        intro request submission isClaim isClaiming
        cases next.symm.trans (nextClaim_eq_some_iff.mpr ⟨isClaim, isClaiming⟩)
      simpa using ⟨row, kept, isRow, isOwner, since⟩
  | some pair =>
      obtain ⟨request, submission⟩ := pair
      rcases nextClaim_eq_some_iff.mp next with ⟨isClaim, isClaiming⟩
      have written : (step calls state caller).store.rows =
          writeOwner submission.id request.user request.now state.store.rows := by
        rw [store_step, isClaim, isClaiming]
        rfl
      rw [Owned, written]
      constructor
      · rintro ⟨after, afterMem, isAfter, afterOwner, afterSince⟩ _ _ ⟨⟩ same
        rcases List.mem_map.mp afterMem with ⟨old, oldMem, rfl⟩
        split_ifs at isAfter afterOwner afterSince with overwritten
        · exact ⟨(Option.some.inj afterOwner).symm, afterSince.symm⟩
        · exact absurd (isAfter.trans same.symm) overwritten
      · intro agrees
        by_cases same : submission.id = submissionId
        · rcases agrees request submission rfl same with ⟨rfl, rfl⟩
          refine ⟨_, List.mem_map_of_mem rowMem, ?_⟩
          rw [if_pos (isRow.trans same.symm)]
          exact ⟨isRow, rfl, rfl⟩
        · refine ⟨row, List.mem_map.mpr ⟨row, rowMem, if_neg ?_⟩, isRow, isOwner, since⟩
          rw [isRow]
          exact Ne.symm same

/-- A call shows a result. -/
def Shown (state : State Caller) (caller : Caller) (result : ProfileMatchResultRead) : Prop :=
  ∃ answer, state.phases caller = .returned answer ∧ answer.Shows result

/-- A submission is one row with one owner ever, results are shown to its submitter and its
claimants, and the steps of calls that fail change no row. -/
structure OwnershipHolds (calls : Caller → Call) (callers : List Caller) : Prop where
  ids : ∀ visited ∈ states (step calls) initial callers, (visited.store.rows.map (·.id)).Nodup
  owner : ∀ submissionId user claimedAt,
    Persists (step calls) (Owned submissionId user claimedAt) initial callers
  results : ∀ visited ∈ states (step calls) initial callers, ∀ caller result,
    Shown visited caller result →
      ∃ user ∈ (calls caller).user, Granted visited.store user result.submissionId
  failures : ∀ earlier caller later, callers = earlier ++ caller :: later →
    (∃ error, (run (step calls) initial callers).phases caller = .raised error) →
      (run (step calls) initial (earlier ++ [caller])).store.rows =
        (run (step calls) initial earlier).store.rows

theorem owned_persists_iff (calls : Caller → Call) (callers : List Caller) :
    (∀ submissionId user claimedAt,
      Persists (step calls) (Owned submissionId user claimedAt) initial callers) ↔
      Along (step calls) (KeepsOwner calls) initial callers := by
  simp only [persists_iff_along owned_step_iff, along_forall_iff]
  have same : ∀ state caller, (∀ submissionId user claimedAt,
      Owned submissionId user claimedAt state → ∀ request submission,
        nextClaim calls state caller = some (request, submission) →
          submission.id = submissionId → user = request.user ∧ claimedAt = some request.now) ↔
      KeepsOwner calls state caller := by
    intro state caller
    constructor
    · intro agrees request submission next row rowMem isRow owner isOwner
      exact agrees submission.id owner row.claimedAt ⟨row, rowMem, isRow, isOwner, rfl⟩
        request submission next rfl
    · rintro keeps submissionId user claimedAt ⟨row, rowMem, isRow, isOwner, rfl⟩ request
        submission next isSubmission
      exact keeps request submission next row rowMem (isRow.trans isSubmission.symm) user isOwner
  simp only [same]

/-- The law holds along exactly the interleavings in which no claim is written over another
owner, or over another instant of the claim. -/
theorem ownershipHolds_iff (calls : Caller → Call) (callers : List Caller) :
    OwnershipHolds calls callers ↔ Along (step calls) (KeepsOwner calls) initial callers := by
  rw [← owned_persists_iff]
  have sound := @invariant_states _ _ _ _ (@sound_step _ _ calls) _ sound_initial callers
  constructor
  · exact fun law => law.owner
  · intro owner
    refine ⟨fun visited mem => (sound visited mem).ids, owner, ?_, ?_⟩
    · rintro visited mem caller result ⟨answer, returned, shows⟩
      have holds := (sound visited mem).phases caller
      rw [returned] at holds
      exact holds result shows
    · rintro earlier caller later rfl ⟨error, raised⟩
      rw [run_append, run_cons] at raised
      rw [run_append]
      exact rows_step_of_raised raised

/-- A guest submits, and two users claim the submission in the browser of the guest. -/
def twoClaims : Option Bool → Call
  | none => .submitProfile ⟨none, "guest-session", [], [], 7, 50⟩
  | some false => .claimSubmission ⟨1, 7, "guest-session", 100⟩
  | some true => .claimSubmission ⟨2, 7, "guest-session", 101⟩

/-- Both claims read and check the submission before one of them is written. -/
def firstClaimed : List (Option Bool) :=
  [none, none, some false, some true, some false, some true, some false, some false]

/-- The first user has got the result as the owner when the second claim is written. -/
theorem second_claim_takes_over :
    Owned 7 1 (some 100) (run (step twoClaims) initial firstClaimed) ∧
      (∃ result, Shown (run (step twoClaims) initial firstClaimed) (some false) result) ∧
      Owned 7 2 (some 101) (run (step twoClaims) initial (firstClaimed ++ [some true])) ∧
      ¬ OwnershipHolds twoClaims (firstClaimed ++ [some true]) := by
  have firstOwner : Owned 7 1 (some 100) (run (step twoClaims) initial firstClaimed) :=
    ⟨_, List.mem_singleton_self _, rfl, rfl, rfl⟩
  refine ⟨firstOwner, ⟨_, _, rfl, rfl⟩, ⟨_, List.mem_singleton_self _, rfl, rfl, rfl⟩, ?_⟩
  intro law
  rcases law.owner 7 1 (some 100) firstClaimed [some true] [] rfl firstOwner with
    ⟨row, rowMem, -, isOwner, -⟩
  cases List.mem_singleton.mp rowMem
  cases isOwner

end ImigrAI.ProfileMatch
