import ImigrAI.Foundations.Runs
import ImigrAI.Python.Uuid
import Mathlib.Logic.Function.Basic

/-!
# The context of row-level security

`get_current_user` sets the user of a request for the transaction at hand only. The services
commit several times within a request, and the next statement begins a transaction on whatever
connection the pool hands out. What is in force there is nobody's context: never another
user's, but not that of the request either.
-/

namespace ImigrAI.Security

open Python Runs Function

inductive UserRole where
  | member
  | admin
deriving DecidableEq

structure User where
  id : UUID
  role : UserRole
deriving DecidableEq

/-- `app.current_user_id` and `app.current_user_role`. -/
structure Settings where
  currentUserId : Option UUID
  currentUserRole : Option UserRole
deriving DecidableEq

namespace Settings

def unset : Settings := ⟨none, none⟩

def ofUser (user : User) : Settings := ⟨some user.id, some user.role⟩

/-- `app_current_user_role()`. -/
def appCurrentUserRole (settings : Settings) : UserRole := settings.currentUserRole.getD .member

/-- The policy of a table whose rows have an owner. -/
def Admits (settings : Settings) (owner : UUID) : Prop :=
  settings.appCurrentUserRole = .admin ∨ settings.currentUserId = some owner

end Settings

/-- The tables with a policy of tenant isolation, and the others by their names. -/
inductive Table where
  | userProfileSnapshots
  | assessments
  | roadmaps
  | subscriptions
  | entitlements
  | usageCounters
  | assessmentResults
  | assessmentResultItems
  | roadmapSteps
  | jobs
  | other (name : String)
deriving DecidableEq

def Table.tenantIsolated : Table → Bool
  | .other _ => false
  | _ => true

abbrev RequestId := ℕ

abbrev ConnectionId := ℕ

/-- A connection of the pool, with the settings of its session and of the transaction at hand. -/
structure Connection where
  holder : Option RequestId
  lasting : Settings
  transaction : Settings

namespace Connection

/-- `set_config` for the two settings. -/
def setConfig (connection : Connection) (values : Settings) (isLocal : Bool) : Connection :=
  if isLocal then { connection with transaction := values }
  else { connection with lasting := values, transaction := values }

/-- What `current_setting` reads. -/
def settings (connection : Connection) : Settings where
  currentUserId := connection.transaction.currentUserId <|> connection.lasting.currentUserId
  currentUserRole := connection.transaction.currentUserRole <|> connection.lasting.currentUserRole

def checkOut (connection : Connection) (request : RequestId) : Connection :=
  { connection with holder := some request }

/-- The end of the transaction, after which the connection goes back to the pool. -/
def release (connection : Connection) : Connection :=
  { connection with holder := none, transaction := .unset }

end Connection

/-- The session of a request after `get_current_user`. It holds a connection as long as it is in
a transaction. -/
structure Session where
  user : User
  connection : Option ConnectionId
  /-- A transaction of the request has been committed or rolled back. -/
  ended : Bool

/-- A statement with the settings it ran under. -/
structure Execution where
  user : User
  table : Table
  settings : Settings
deriving DecidableEq

structure State where
  connections : ConnectionId → Connection
  sessions : RequestId → Option Session
  executed : List Execution

def initial : State where
  connections _ := ⟨none, .unset, .unset⟩
  sessions _ := none
  executed := []

inductive Action where
  /-- `get_current_user`, on the connection that the pool hands out. -/
  | getCurrentUser (request : RequestId) (user : User) (connection : ConnectionId)
  /-- A statement, on this connection if it begins a transaction. -/
  | execute (request : RequestId) (table : Table) (connection : ConnectionId)
  | commit (request : RequestId)
  | rollback (request : RequestId)
  /-- The end of the request, which closes its session. -/
  | close (request : RequestId)

def applyRlsContext (user : User) (connection : Connection) : Connection :=
  connection.setConfig (.ofUser user) true

/-- The connection is in the pool. -/
def Idle (state : State) (connection : ConnectionId) : Prop :=
  (state.connections connection).holder = none

instance (state : State) (connection : ConnectionId) : Decidable (Idle state connection) :=
  inferInstanceAs (Decidable (_ = none))

def record (state : State) (user : User) (table : Table) (connection : ConnectionId) : State :=
  { state with executed := state.executed ++
      [⟨user, table, (state.connections connection).settings⟩] }

/-- The session takes the connection out of the pool. -/
def begin (state : State) (request : RequestId) (session : Session) (connection : ConnectionId) :
    State :=
  { state with
    connections := update state.connections connection
      ((state.connections connection).checkOut request)
    sessions := update state.sessions request (some { session with connection := connection }) }

/-- The session gives back the connection that it holds, if any. -/
def releaseOf (state : State) (session : Session) : ConnectionId → Connection :=
  match session.connection with
  | some held => update state.connections held (state.connections held).release
  | none => state.connections

/-- `commit` and `rollback`. -/
def endTransaction (state : State) (request : RequestId) : State :=
  match state.sessions request with
  | some session =>
      { state with
        connections := releaseOf state session
        sessions := update state.sessions request
          (some { session with connection := none, ended := true }) }
  | none => state

/-- `get_current_user`, whose first statement begins the transaction. -/
def getCurrentUser (state : State) (request : RequestId) (user : User)
    (connection : ConnectionId) : State :=
  if state.sessions request = none ∧ Idle state connection then
    { state with
      connections := update state.connections connection
        (applyRlsContext user ((state.connections connection).checkOut request))
      sessions := update state.sessions request (some ⟨user, some connection, false⟩) }
  else state

/-- A statement of a service. It does not run while the pool has no connection for it. -/
def execute (state : State) (request : RequestId) (table : Table) (connection : ConnectionId) :
    State :=
  match state.sessions request with
  | some session =>
      match session.connection with
      | some held => record state session.user table held
      | none =>
          if Idle state connection then
            record (begin state request session connection) session.user table connection
          else state
  | none => state

def close (state : State) (request : RequestId) : State :=
  match state.sessions request with
  | some session =>
      { state with
        connections := releaseOf state session
        sessions := update state.sessions request none }
  | none => state

def step (state : State) : Action → State
  | .getCurrentUser request user connection => getCurrentUser state request user connection
  | .execute request table connection => execute state request table connection
  | .commit request | .rollback request => endTransaction state request
  | .close request => close state request

/-- The settings of the transactions of a session. -/
def Session.settings (session : Session) : Settings :=
  if session.ended then .unset else .ofUser session.user

/-- What the pool and the sessions keep to. -/
structure Consistent (state : State) : Prop where
  lasting : ∀ connection, (state.connections connection).lasting = .unset
  idle : ∀ connection, Idle state connection → (state.connections connection).transaction = .unset
  held : ∀ request session connection, state.sessions request = some session →
    session.connection = some connection →
      (state.connections connection).holder = some request ∧
        (state.connections connection).transaction = session.settings
  authenticated : ∀ request session, state.sessions request = some session →
    session.ended = false → session.connection ≠ none

theorem settings_of_lasting {connection : Connection} (lasting : connection.lasting = .unset) :
    connection.settings = connection.transaction := by
  simp [Connection.settings, lasting, Settings.unset]

theorem consistent_initial : Consistent initial where
  lasting _ := rfl
  idle _ _ := rfl
  held _ _ _ found := by cases found
  authenticated _ _ found := by cases found

namespace Consistent

variable {state : State} (consistent : Consistent state) {request : RequestId}

include consistent

theorem recorded (user : User) (table : Table) (connection : ConnectionId) :
    Consistent (record state user table connection) :=
  ⟨consistent.lasting, consistent.idle, consistent.held, consistent.authenticated⟩

/-- A connection that no other request holds may change hands. -/
theorem exchanged {after : Option Session} {connection : ConnectionId} {taken : Connection}
    (free : ∀ other ≠ request, (state.connections connection).holder ≠ some other)
    (lasting : taken.lasting = .unset)
    (idle : taken.holder = none → taken.transaction = .unset)
    (held : ∀ session held, after = some session → session.connection = some held →
      held = connection ∧ taken.holder = some request ∧ taken.transaction = session.settings)
    (authenticated : ∀ session, after = some session → session.ended = false →
      session.connection ≠ none) :
    Consistent { state with
      connections := update state.connections connection taken
      sessions := update state.sessions request after } where
  lasting other := by
    dsimp only
    rw [update_apply]
    split_ifs
    · exact lasting
    · exact consistent.lasting other
  idle other isIdle := by
    dsimp only [Idle] at isIdle ⊢
    rw [update_apply] at isIdle ⊢
    split_ifs at isIdle ⊢
    · exact idle isIdle
    · exact consistent.idle other isIdle
  held other session heldOne found holds := by
    dsimp only at found ⊢
    rw [update_apply] at found
    split_ifs at found with same
    · rcases held session heldOne found holds with ⟨rfl, holder, transaction⟩
      rw [update_self, same]
      exact ⟨holder, transaction⟩
    · have before := consistent.held other session heldOne found holds
      have different : heldOne ≠ connection := by
        rintro rfl
        exact free other same before.1
      rw [update_of_ne different]
      exact before
  authenticated other session found active := by
    dsimp only at found
    rw [update_apply] at found
    split_ifs at found
    · exact authenticated session found active
    · exact consistent.authenticated other session found active

/-- A session without a connection may change or end. -/
theorem detached {after : Option Session}
    (detached : ∀ session, after = some session → session.connection = none ∧ session.ended) :
    Consistent { state with sessions := update state.sessions request after } where
  lasting := consistent.lasting
  idle := consistent.idle
  held other session held found holds := by
    dsimp only at found
    rw [update_apply] at found
    split_ifs at found
    · simp [(detached session found).1] at holds
    · exact consistent.held other session held found holds
  authenticated other session found active := by
    dsimp only at found
    rw [update_apply] at found
    split_ifs at found
    · simp [(detached session found).2] at active
    · exact consistent.authenticated other session found active

/-- The end of a transaction, and of a session. -/
theorem released {session : Session} {after : Option Session}
    (found : state.sessions request = some session)
    (detached : ∀ next, after = some next → next.connection = none ∧ next.ended) :
    Consistent { state with
      connections := releaseOf state session
      sessions := update state.sessions request after } := by
  unfold releaseOf
  cases holds : session.connection with
  | none => exact consistent.detached detached
  | some held =>
      apply consistent.exchanged
      · rw [(consistent.held request session held found holds).1]
        rintro other different same
        exact different (Option.some.inj same).symm
      · exact consistent.lasting held
      · intro _
        rfl
      · intro next connection found holds
        simp [(detached next found).1] at holds
      · intro next found active
        simp [(detached next found).2] at active

/-- A session without a connection takes one out of the pool. -/
theorem begun {session : Session} {connection : ConnectionId}
    (found : state.sessions request = some session) (holds : session.connection = none)
    (idle : Idle state connection) : Consistent (begin state request session connection) := by
  have ended : session.ended := by
    by_contra active
    exact consistent.authenticated request session found (by simpa using active) holds
  apply consistent.exchanged
  · intro other _
    rw [idle]
    simp
  · exact consistent.lasting connection
  · intro isIdle
    cases isIdle
  · rintro next held found holds
    cases found
    cases holds
    refine ⟨rfl, rfl, ?_⟩
    simp only [Connection.checkOut, consistent.idle connection idle, Session.settings, ended,
      if_true]
  · rintro next found active
    cases found
    simp

/-- A new session has the settings of its user in its first transaction. -/
theorem started {user : User} {connection : ConnectionId} (idle : Idle state connection) :
    Consistent { state with
      connections := update state.connections connection
        (applyRlsContext user ((state.connections connection).checkOut request))
      sessions := update state.sessions request (some ⟨user, some connection, false⟩) } := by
  apply consistent.exchanged
  · intro other _
    rw [idle]
    simp
  · exact consistent.lasting connection
  · intro isIdle
    cases isIdle
  · rintro next held found holds
    cases found
    cases holds
    exact ⟨rfl, rfl, rfl⟩
  · rintro next found active
    cases found
    simp

theorem stepped (action : Action) : Consistent (step state action) := by
  cases action with
  | getCurrentUser request user connection =>
      rw [step, getCurrentUser]
      split_ifs with enabled
      · exact consistent.started enabled.2
      · exact consistent
  | execute request table connection =>
      rw [step, execute]
      split
      · rename_i session found
        split
        · exact consistent.recorded _ _ _
        · rename_i holds
          split_ifs with idle
          · exact (consistent.begun found holds idle).recorded _ _ _
          · exact consistent
      · exact consistent
  | commit request | rollback request =>
      rw [step, endTransaction]
      split
      · rename_i session found
        apply consistent.released found
        rintro next same
        cases same
        exact ⟨rfl, rfl⟩
      · exact consistent
  | close request =>
      rw [step, close]
      split
      · rename_i session found
        exact consistent.released found (by simp)
      · exact consistent

end Consistent

/-- The statement that a step runs. -/
def executionOf (state : State) : Action → Option Execution
  | .execute request table connection => do
      let session ← state.sessions request
      if session.connection = none ∧ ¬ Idle state connection then none
      else some ⟨session.user, table, session.settings⟩
  | _ => none

theorem executed_step {state : State} (consistent : Consistent state) (action : Action) :
    (step state action).executed = state.executed ++ (executionOf state action).toList := by
  cases action with
  | getCurrentUser request user connection =>
      rw [step, getCurrentUser]
      split_ifs <;> simp [executionOf]
  | commit request | rollback request =>
      rw [step, endTransaction]
      split <;> simp [executionOf]
  | close request =>
      rw [step, close]
      split <;> simp [executionOf]
  | execute request table connection =>
      rw [step, execute]
      split
      · rename_i session found
        split
        · rename_i held holds
          have settings := (consistent.held request session held found holds).2
          simp [executionOf, found, holds, record, settings_of_lasting (consistent.lasting held),
            settings]
        · rename_i holds
          split_ifs with idle
          · have begun := consistent.begun found holds idle
            have settings := (begun.held request { session with connection := some connection }
              connection (by simp [begin]) rfl).2
            simp [executionOf, found, idle, record,
              settings_of_lasting (begun.lasting connection), settings]
            exact ⟨rfl, rfl⟩
          · simp [executionOf, found, holds, idle]
      · rename_i missing
        simp [executionOf, missing]

/-- Statements of tenant tables have run under the id of their user. -/
def Isolated (state : State) : Prop :=
  ∀ execution ∈ state.executed, execution.table.tenantIsolated →
    execution.settings.currentUserId = some execution.user.id

/-- A statement of a tenant table does not come after a commit or rollback of its request. It
does not run when the pool has no connection for it. -/
def InFirstTransaction (state : State) : Action → Prop
  | .execute request table connection => table.tenantIsolated → ∀ session,
      state.sessions request = some session → session.ended →
        session.connection = none ∧ ¬ Idle state connection
  | _ => True

theorem inFirstTransaction_iff {state : State} (action : Action) :
    InFirstTransaction state action ↔
      ∀ execution, executionOf state action = some execution → execution.table.tenantIsolated →
        execution.settings.currentUserId = some execution.user.id := by
  cases action with
  | execute request table connection =>
      cases found : state.sessions request with
      | none => simp [InFirstTransaction, executionOf, found]
      | some session =>
          by_cases refused : session.connection = none ∧ ¬ Idle state connection
          · simp [InFirstTransaction, executionOf, found, refused]
          · cases ended : session.ended <;>
              simp [InFirstTransaction, executionOf, found, refused, ended, Session.settings,
                Settings.unset, Settings.ofUser]
  | _ => simp [InFirstTransaction, executionOf]

/-- A step keeps the isolation exactly if it runs no statement of a tenant table after a commit
or rollback of its request. -/
theorem isolated_step_iff {state : State} (consistent : Consistent state) (action : Action)
    (isolated : Isolated state) :
    Isolated (step state action) ↔ InFirstTransaction state action := by
  rw [inFirstTransaction_iff]
  simp only [Isolated, executed_step consistent, List.mem_append, Option.mem_toList]
  constructor
  · intro after execution ran
    exact after execution (.inr ran)
  · intro met execution executed
    rcases executed with before | ran
    · exact isolated execution before
    · exact met execution ran

/-- A statement runs under nobody's context or under that of its user. -/
def OwnOrUnset (state : State) : Prop :=
  ∀ execution ∈ state.executed,
    execution.settings = .unset ∨ execution.settings = .ofUser execution.user

theorem ownOrUnset_step {state : State} (consistent : Consistent state) (action : Action)
    (own : OwnOrUnset state) : OwnOrUnset (step state action) := by
  intro execution executed
  rw [executed_step consistent, List.mem_append, Option.mem_toList] at executed
  rcases executed with before | ran
  · exact own execution before
  · cases action with
    | execute request table connection =>
        rcases Option.bind_eq_some_iff.mp ran with ⟨session, -, made⟩
        split_ifs at made
        cases made
        simp only [Session.settings]
        split_ifs
        · exact .inl rfl
        · exact .inr rfl
    | _ => cases ran

/-- Under nobody's context no row has an owner, and under a user's context the user owns rows. -/
theorem admits_own_iff {execution : Execution}
    (own : execution.settings = .unset ∨ execution.settings = .ofUser execution.user) :
    execution.settings.Admits execution.user.id ↔
      execution.settings.currentUserId = some execution.user.id := by
  rcases own with settings | settings <;>
    simp [settings, Settings.Admits, Settings.unset, Settings.ofUser, Settings.appCurrentUserRole]

/-- In every run the context is never another user's, the rows of the user are admitted exactly
under the user's own context, and all statements of tenant tables run under it exactly if none
of them comes after a commit or rollback of its request. -/
theorem isolated_iff_inFirstTransaction (actions : List Action) :
    (∀ visited ∈ states step initial actions, OwnOrUnset visited) ∧
    (∀ visited ∈ states step initial actions, ∀ execution ∈ visited.executed,
      (execution.settings.Admits execution.user.id ↔
        execution.settings.currentUserId = some execution.user.id)) ∧
    ((∀ visited ∈ states step initial actions, Isolated visited) ↔
      Along step InFirstTransaction initial actions) := by
  have keeps : ∀ state action, Consistent state ∧ OwnOrUnset state →
      Consistent (step state action) ∧ OwnOrUnset (step state action) := by
    rintro state action ⟨consistent, own⟩
    exact ⟨consistent.stepped action, ownOrUnset_step consistent action own⟩
  have start : Consistent initial ∧ OwnOrUnset initial :=
    ⟨consistent_initial, by simp [OwnOrUnset, initial]⟩
  have own := invariant_states keeps start actions
  refine ⟨?_, ?_, ?_⟩
  · intro visited visitedMem
    exact (own visited visitedMem).2
  · intro visited visitedMem execution executed
    exact admits_own_iff ((own visited visitedMem).2 execution executed)
  · exact forall_states_iff_along (fun _ action consistent _ _ => consistent.stepped action)
      (fun _ action consistent isolated => isolated_step_iff consistent action isolated)
      consistent_initial (by simp [Isolated, initial]) actions

/-- What `create_assessment` runs for a new key up to the entitlements of the user: the lookup of
the key, then for the free and for the pro plan a lookup, a commit and a refresh. -/
def createAssessmentStart (request : RequestId) (connection : ConnectionId) : List Action :=
  [.execute request .assessments connection,
    .execute request (.other "plans") connection, .commit request,
    .execute request (.other "plans") connection,
    .execute request (.other "plans") connection, .commit request,
    .execute request (.other "plans") connection,
    .execute request .entitlements connection]

theorem createAssessmentStart_not_isolated :
    ¬ ∀ visited ∈ states step initial
        (.getCurrentUser 1 ⟨7, .member⟩ 0 :: createAssessmentStart 1 0), Isolated visited := by
  intro isolated
  have ran : ⟨⟨7, .member⟩, .entitlements, .unset⟩ ∈
      (run step initial (.getCurrentUser 1 ⟨7, .member⟩ 0 :: createAssessmentStart 1 0)).executed := by
    decide
  have own := isolated _ (run_mem_states _ _) _ ran rfl
  cases own

end ImigrAI.Security
