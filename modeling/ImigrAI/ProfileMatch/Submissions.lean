import ImigrAI.Foundations.Runs
import ImigrAI.Python.Datetime
import ImigrAI.Python.Uuid
import ImigrAI.Python.Value
import Mathlib.Logic.Function.Basic

/-!
# Submissions of the profile match

`ProfileMatchService`, with any number of calls of users and guests at once. A call is a sequence
of steps, each of them one statement or commit on its own, and between two of them any other calls
may do theirs. The ranking of the countries is an argument, and so are new ids and the readings of
the clock.
-/

namespace ImigrAI.ProfileMatch

open Python Runs

structure ProfileMatchSubmission where
  id : UUID
  userId : Option UUID
  guestSessionId : String
  algorithmVersion : String
  profileJson : List (String × Value)
  resultJson : List (List (String × Value))
  createdAt : Instant
  claimedAt : Option Instant

structure ProfileMatchResultRead where
  submissionId : UUID
  algorithmVersion : String
  createdAt : Instant
  profileSnapshot : List (String × Value)
  countryMatches : List (List (String × Value))

/-- What a call returns. -/
inductive Answer where
  | submitted (submissionId : UUID) (requiresLogin : Bool)
      (result : Option ProfileMatchResultRead)
  | result (result : ProfileMatchResultRead)

inductive ServiceError where
  | http (statusCode : ℕ) (detail : String)
  | integrityError
deriving DecidableEq

/-- A profile with the matches that it is ranked to, and the id and the time of its new row. -/
structure SubmitRequest where
  currentUser : Option UUID
  guestSessionId : String
  profileSnapshot : List (String × Value)
  countryMatches : List (List (String × Value))
  id : UUID
  createdAt : Instant

structure ClaimRequest where
  user : UUID
  submissionId : UUID
  guestSessionId : String
  now : Instant

inductive Call where
  | submitProfile (request : SubmitRequest)
  | claimSubmission (request : ClaimRequest)
  | getResults (submissionId user : UUID)

/-- The user of a call, unless it is of a guest. -/
def Call.user : Call → Option UUID
  | .submitProfile request => request.currentUser
  | .claimSubmission request => some request.user
  | .getResults _ user => some user

/-- A commit of a call. -/
inductive Event where
  | submitted (submissionId : UUID) (user : Option UUID)
  | claimed (submissionId user : UUID) (guestSessionId : String)

/-- The table, and the commits so far. -/
structure Store where
  rows : List ProfileMatchSubmission
  events : List Event

/-- Where a call stands, with the row that its session holds. -/
inductive Phase where
  | called
  | submitted (submission : ProfileMatchSubmission)
  | loaded (submission : Option ProfileMatchSubmission)
  | claiming (submission : ProfileMatchSubmission)
  | claimed (submission : ProfileMatchSubmission)
  | returned (answer : Answer)
  | raised (error : ServiceError)

def getSubmission (rows : List ProfileMatchSubmission) (submissionId : UUID) :
    Option ProfileMatchSubmission :=
  rows.find? fun row => decide (row.id = submissionId)

/-- The row as it is now; no call deletes any. -/
def refresh (rows : List ProfileMatchSubmission) (submission : ProfileMatchSubmission) :
    ProfileMatchSubmission :=
  (getSubmission rows submission.id).getD submission

def toResultRead (submission : ProfileMatchSubmission) : ProfileMatchResultRead :=
  ⟨submission.id, submission.algorithmVersion, submission.createdAt, submission.profileJson,
    submission.resultJson⟩

def submissionNotFound : ServiceError := .http 404 "Submission not found"

def newSubmission (request : SubmitRequest) : ProfileMatchSubmission where
  id := request.id
  userId := request.currentUser
  guestSessionId := request.guestSessionId
  algorithmVersion := "country-fit-v1"
  profileJson := request.profileSnapshot
  resultJson := request.countryMatches
  createdAt := request.createdAt
  claimedAt := none

/-- `create_submission` and its commit. -/
def createSubmission (store : Store) (request : SubmitRequest) : Store × Phase :=
  if request.id ∈ store.rows.map (·.id) then (store, .raised .integrityError)
  else
    ({ rows := store.rows ++ [newSubmission request]
       events := store.events ++ [.submitted request.id request.currentUser] },
      .submitted (newSubmission request))

def submitRead (rows : List ProfileMatchSubmission) (request : SubmitRequest)
    (submission : ProfileMatchSubmission) : Answer :=
  let fullResult := toResultRead (refresh rows submission)
  let requiresLogin := request.currentUser.isNone
  .submitted submission.id requiresLogin (if requiresLogin then none else some fullResult)

/-- The checks of a claim. -/
def checkClaim (request : ClaimRequest) : Option ProfileMatchSubmission → Phase
  | none => .raised submissionNotFound
  | some submission =>
      match submission.userId with
      | none =>
          if submission.guestSessionId ≠ request.guestSessionId then
            .raised (.http 403 "Submission does not belong to this browser session")
          else .claiming submission
      | some owner =>
          if owner ≠ request.user then .raised submissionNotFound
          else .returned (.result (toResultRead submission))

def writeOwner (submissionId user : UUID) (now : Instant) (rows : List ProfileMatchSubmission) :
    List ProfileMatchSubmission :=
  rows.map fun row =>
    if row.id = submissionId then { row with userId := user, claimedAt := now } else row

/-- `claim_submission` of the repository and its commit. -/
def claim (store : Store) (request : ClaimRequest) (submission : ProfileMatchSubmission) :
    Store × Phase :=
  ({ rows := writeOwner submission.id request.user request.now store.rows
     events := store.events ++ [.claimed submission.id request.user request.guestSessionId] },
    .claimed { submission with userId := request.user, claimedAt := request.now })

def checkResults (user : UUID) : Option ProfileMatchSubmission → Phase
  | none => .raised submissionNotFound
  | some submission =>
      if submission.userId ≠ user then .raised submissionNotFound
      else .returned (.result (toResultRead submission))

/-- The next step of a call. -/
def advance (store : Store) : Call → Phase → Store × Phase
  | .submitProfile request, .called => createSubmission store request
  | .submitProfile request, .submitted submission =>
      (store, .returned (submitRead store.rows request submission))
  | .claimSubmission request, .called =>
      (store, .loaded (getSubmission store.rows request.submissionId))
  | .claimSubmission request, .loaded found => (store, checkClaim request found)
  | .claimSubmission request, .claiming submission => claim store request submission
  | .claimSubmission _, .claimed submission =>
      (store, .returned (.result (toResultRead (refresh store.rows submission))))
  | .getResults submissionId _, .called =>
      (store, .loaded (getSubmission store.rows submissionId))
  | .getResults _ user, .loaded found => (store, checkResults user found)
  | _, phase => (store, phase)

/-- The store, and where each call stands. -/
structure State (Caller : Type) where
  store : Store
  phases : Caller → Phase

variable {Caller : Type} [DecidableEq Caller]

def initial : State Caller := ⟨⟨[], []⟩, fun _ => .called⟩

/-- The next step of one of the calls. -/
def step (calls : Caller → Call) (state : State Caller) (caller : Caller) : State Caller :=
  let advanced := advance state.store (calls caller) (state.phases caller)
  ⟨advanced.1, Function.update state.phases caller advanced.2⟩

section Step

variable {calls : Caller → Call} {state : State Caller} {caller : Caller}

theorem store_step :
    (step calls state caller).store =
      (advance state.store (calls caller) (state.phases caller)).1 := rfl

theorem phases_step_self :
    (step calls state caller).phases caller =
      (advance state.store (calls caller) (state.phases caller)).2 :=
  Function.update_self ..

theorem phases_step_of_ne {other : Caller} (different : other ≠ caller) :
    (step calls state caller).phases other = state.phases other :=
  Function.update_of_ne different ..

end Step

end ImigrAI.ProfileMatch
