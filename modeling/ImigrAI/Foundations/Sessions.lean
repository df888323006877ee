import ImigrAI.Foundations.Actions

/-!
# Database sessions

A session sends the changes of a program in flushes, within a transaction that begins with the
first query or flush and that a commit or a rollback closes. After a failed flush the session
does nothing more until it is rolled back. A rollback of an open transaction expires the
instances that were loaded, and so does a failed flush; whoever reads an expired instance
outside a call of the session gets an error.
-/

namespace ImigrAI.Sessions

open Actions Action

universe u v

inductive Transaction (Tables : Type u) where
  | closed
  /-- The transaction is open and sees these tables. -/
  | active (tables : Tables)
  /-- A flush has failed. -/
  | failed

structure Session (Tables : Type u) where
  committed : Tables
  transaction : Transaction Tables
  /-- The instances that were loaded are expired. -/
  expired : Bool

inductive SessionError (Error : Type v) where
  | raised (error : Error)
  | pendingRollback
  | missingGreenlet
deriving DecidableEq

abbrev Program (Tables : Type u) (Error : Type v) (Result : Type) :=
  Action (Session Tables) (SessionError Error) Result

section Programs

variable {Tables : Type u} {Error : Type v} {Result : Type}

/-- The tables as the session sees them. -/
def Session.current (session : Session Tables) : Tables :=
  match session.transaction with
  | .active tables => tables
  | _ => session.committed

def query (read : Tables → Except Error Result) : Program Tables Error Result := fun session =>
  match session.transaction with
  | .failed => (.error .pendingRollback, session)
  | _ =>
      let opened := { session with transaction := .active session.current }
      match read session.current with
      | .ok result => (.ok result, opened)
      | .error error => (.error (.raised error), opened)

def flush (change : Tables → Except Error Tables) : Program Tables Error Unit := fun session =>
  match session.transaction with
  | .failed => (.error .pendingRollback, session)
  | _ =>
      match change session.current with
      | .ok tables => (.ok (), { session with transaction := .active tables })
      | .error error =>
          (.error (.raised error), { session with transaction := .failed, expired := true })

/-- The commit proper, which may fail and then leaves the transaction open. -/
def commit (fault : Option Error) : Program Tables Error Unit := fun session =>
  match session.transaction with
  | .failed => (.error .pendingRollback, session)
  | _ =>
      match fault with
      | none => (.ok (), { session with committed := session.current, transaction := .closed })
      | some error =>
          (.error (.raised error), { session with transaction := .active session.current })

def rollback : Program Tables Error Unit := fun session =>
  match session.transaction with
  | .closed => (.ok (), session)
  | _ => (.ok (), { session with transaction := .closed, expired := true })

/-- Reading an attribute of an instance that was loaded before. -/
def readAttribute (value : Result) : Program Tables Error Result := fun session =>
  if session.expired then
    match session.transaction with
    | .failed => (.error .pendingRollback, session)
    | _ => (.error .missingGreenlet, session)
  else (.ok value, session)

/-- A call that does not go to the database. -/
def outside (computation : Except Error Result) : Program Tables Error Result :=
  ofExcept (computation.mapError .raised)

/-- What is done in one transaction is committed, or rolled back when it raises. -/
def inTransaction (fault : Option Error) (body : Program Tables Error Result) :
    Program Tables Error Result :=
  catching (do
    let result ← body
    commit fault
    pure result) fun error => do
      rollback
      raising error

end Programs

section States

variable {Tables : Type u} {Error : Type v} {Result : Type}

/-- The session can be used, and sees `tables` over what is committed. -/
structure Sees (committed tables : Tables) (expired : Bool) (session : Session Tables) : Prop where
  committed : session.committed = committed
  current : session.current = tables
  expired : session.expired = expired
  usable : session.transaction ≠ .failed

/-- No transaction is open. -/
structure Idle (committed : Tables) (expired : Bool) (session : Session Tables) : Prop where
  committed : session.committed = committed
  expired : session.expired = expired
  closed : session.transaction = .closed

/-- A transaction is open or has failed, so a rollback will expire what was loaded. -/
structure Opened (committed : Tables) (session : Session Tables) : Prop where
  committed : session.committed = committed
  opened : session.transaction ≠ .closed

/-- A flush has failed. -/
structure Broken (committed : Tables) (session : Session Tables) : Prop where
  committed : session.committed = committed
  failed : session.transaction = .failed
  expired : session.expired = true

variable {committed tables : Tables} {expired : Bool} {session : Session Tables}

theorem Idle.sees (idle : Idle committed expired session) :
    Sees committed committed expired session where
  committed := idle.committed
  current := by rw [Session.current, idle.closed, ← idle.committed]
  expired := idle.expired
  usable := by simp [idle.closed]

theorem Broken.opened (broken : Broken committed session) : Opened committed session where
  committed := broken.committed
  opened := by simp [broken.failed]

theorem ensures_query (read : Tables → Except Error Result) :
    Ensures (Sees committed tables expired) (query read)
      (fun result after => read tables = .ok result ∧ Sees committed tables expired after ∧
        Opened committed after)
      (fun raised after => ∃ error, raised = .raised error ∧ read tables = .error error ∧
        Sees committed tables expired after ∧ Opened committed after) := by
  rintro session ⟨rfl, rfl, rfl, usable⟩
  have sees : Sees session.committed session.current session.expired
      { session with transaction := .active session.current } :=
    ⟨rfl, rfl, rfl, by simp⟩
  have opened : Opened session.committed
      { session with transaction := .active session.current } := ⟨rfl, by simp⟩
  cases place : session.transaction with
  | failed => exact absurd place usable
  | closed | active =>
      simp only [query, place]
      cases outcome : read session.current with
      | ok result => exact ⟨rfl, sees, opened⟩
      | error error => exact ⟨error, rfl, rfl, sees, opened⟩

theorem ensures_query_ok (read : Tables → Result) :
    Ensures (Sees committed tables expired)
      (query fun tables => .ok (read tables) : Program Tables Error Result)
      (fun result after => result = read tables ∧ Sees committed tables expired after)
      (fun _ _ => False) := by
  refine (ensures_query _).weaken (fun _ => id) ?_ ?_
  · rintro result after ⟨done, sees, -⟩
    exact ⟨(Except.ok.inj done).symm, sees⟩
  · rintro _ after ⟨_, -, impossible, -⟩
    cases impossible

theorem ensures_flush (change : Tables → Except Error Tables) :
    Ensures (Sees committed tables expired) (flush change)
      (fun _ after => ∃ changed, change tables = .ok changed ∧
        Sees committed changed expired after ∧ Opened committed after)
      (fun raised after => ∃ error, raised = .raised error ∧ change tables = .error error ∧
        Broken committed after) := by
  rintro session ⟨rfl, rfl, rfl, usable⟩
  cases place : session.transaction with
  | failed => exact absurd place usable
  | closed | active =>
      simp only [flush, place]
      cases outcome : change session.current with
      | ok changed => exact ⟨changed, rfl, ⟨rfl, rfl, rfl, by simp⟩, ⟨rfl, by simp⟩⟩
      | error error => exact ⟨error, rfl, rfl, rfl, rfl, rfl⟩

theorem ensures_flush_ok (change : Tables → Tables) :
    Ensures (Sees committed tables expired)
      (flush fun tables => .ok (change tables) : Program Tables Error Unit)
      (fun _ => Sees committed (change tables) expired) (fun _ _ => False) := by
  refine (ensures_flush _).weaken (fun _ => id) ?_ ?_
  · rintro _ after ⟨changed, done, sees, -⟩
    cases done
    exact sees
  · rintro _ after ⟨_, -, impossible, -⟩
    cases impossible

/-- After a failed flush nothing more is flushed. -/
theorem ensures_flush_of_broken (change : Tables → Except Error Tables) :
    Ensures (Broken committed) (flush change) (fun _ _ => False)
      (fun raised after => raised = .pendingRollback ∧ Broken committed after) := by
  rintro session ⟨rfl, failed, expired⟩
  simp only [flush, failed]
  exact ⟨trivial, rfl, failed, expired⟩

theorem ensures_commit (fault : Option Error) :
    Ensures (Sees committed tables expired) (commit fault)
      (fun _ after => fault = none ∧ Idle tables expired after)
      (fun raised after => ∃ error, raised = .raised error ∧ fault = some error ∧
        Sees committed tables expired after ∧ Opened committed after) := by
  rintro session ⟨rfl, rfl, rfl, usable⟩
  cases place : session.transaction with
  | failed => exact absurd place usable
  | closed | active =>
      simp only [commit, place]
      cases fault with
      | none => exact ⟨rfl, rfl, rfl, rfl⟩
      | some error => exact ⟨error, rfl, rfl, ⟨rfl, rfl, rfl, by simp⟩, ⟨rfl, by simp⟩⟩

theorem ensures_commit_none :
    Ensures (Sees committed tables expired) (commit none : Program Tables Error Unit)
      (fun _ => Idle tables expired) (fun _ _ => False) := by
  refine (ensures_commit none).weaken (fun _ => id) (fun _ _ => And.right) ?_
  rintro _ after ⟨_, -, impossible, -⟩
  cases impossible

/-- After a rollback what is committed counts. -/
theorem ensures_rollback :
    Ensures (fun session => session.committed = committed)
      (rollback : Program Tables Error Unit) (fun _ after => ∃ expired, Idle committed expired after)
      (fun _ _ => False) := by
  rintro session rfl
  cases place : session.transaction with
  | closed =>
      simp only [rollback, place]
      exact ⟨_, rfl, rfl, place⟩
  | active | failed =>
      simp only [rollback, place]
      exact ⟨_, rfl, rfl, rfl⟩

theorem ensures_rollback_of_idle :
    Ensures (Idle committed expired) (rollback : Program Tables Error Unit)
      (fun _ => Idle committed expired) (fun _ _ => False) := by
  rintro session ⟨rfl, rfl, closed⟩
  simp only [rollback, closed]
  exact ⟨rfl, rfl, closed⟩

theorem ensures_rollback_of_opened :
    Ensures (Opened committed) (rollback : Program Tables Error Unit)
      (fun _ => Idle committed true) (fun _ _ => False) := by
  rintro session ⟨rfl, opened⟩
  cases place : session.transaction with
  | closed => exact absurd place opened
  | active | failed =>
      simp only [rollback, place]
      exact ⟨rfl, rfl, rfl⟩

/-- A transaction that raises leaves what was committed before. -/
theorem ensures_inTransaction {body : Program Tables Error Result}
    {returns : Result → Tables → Prop} (fault : Option Error)
    (ensures : Ensures (Sees committed committed expired) body
      (fun result after => ∃ tables, returns result tables ∧ Sees committed tables expired after)
      (fun _ after => after.committed = committed)) :
    Ensures (Sees committed committed expired) (inTransaction fault body)
      (fun result after => ∃ tables, returns result tables ∧ Idle tables expired after)
      (fun _ after => ∃ expired, Idle committed expired after) := by
  refine Ensures.catching (fun _ after => after.committed = committed) ?_ fun error => ?_
  · refine ensures.bind fun result => ?_
    rintro session ⟨tables, met, sees⟩
    have committing := ensures_commit fault session sees
    rcases done : commit fault session with ⟨error | _, after⟩
    · rw [done] at committing
      rw [bind_of_error done]
      rcases committing with ⟨_, -, -, sees, -⟩
      exact sees.committed
    · rw [done] at committing
      rw [bind_of_ok done]
      exact ⟨tables, met, committing.2⟩
  · exact ensures_rollback.bind_total fun _ _ idle => idle

/-- A transaction in which nothing fails is committed. -/
theorem ensures_inTransaction_none {body : Program Tables Error Result}
    {returns : Result → Tables → Prop}
    (ensures : Ensures (Sees committed committed expired) body
      (fun result after => ∃ tables, returns result tables ∧ Sees committed tables expired after)
      (fun _ _ => False)) :
    Ensures (Sees committed committed expired) (inTransaction none body)
      (fun result after => ∃ tables, returns result tables ∧ Idle tables expired after)
      (fun _ _ => False) := by
  refine Ensures.catching (fun _ _ => False) ?_ fun error _ impossible => impossible.elim
  refine ensures.bind fun result => ensures_of_exists fun tables => ensures_of_and fun met => ?_
  refine ensures_commit_none.bind fun _ => ?_
  exact fun session idle => ⟨tables, met, idle⟩

theorem ensures_readAttribute_of_loaded (value : Result) :
    Ensures (Idle committed false) (readAttribute value : Program Tables Error Result)
      (fun read after => read = value ∧ Idle committed false after) (fun _ _ => False) := by
  intro session idle
  simp only [readAttribute, idle.expired]
  exact ⟨rfl, idle⟩

theorem ensures_readAttribute_of_expired (value : Result) :
    Ensures (Idle committed true) (readAttribute value : Program Tables Error Result)
      (fun _ _ => False)
      (fun raised after => raised = .missingGreenlet ∧ after.committed = committed) := by
  intro session idle
  simp only [readAttribute, idle.expired, idle.closed]
  exact ⟨rfl, idle.committed⟩

/-- An instance can be read unless it is expired. -/
theorem ensures_readAttribute_of_opened (value : Result) :
    Ensures (Opened committed) (readAttribute value : Program Tables Error Result)
      (fun _ => Opened committed)
      (fun raised after => (raised = .missingGreenlet ∨ raised = .pendingRollback) ∧
        after.committed = committed) := by
  rintro session ⟨rfl, opened⟩
  rcases session with ⟨tables, transaction, _ | _⟩
  · exact ⟨rfl, opened⟩
  · cases transaction with
    | closed => exact absurd rfl opened
    | active seen => exact ⟨Or.inl rfl, rfl⟩
    | failed => exact ⟨Or.inr rfl, rfl⟩

end States

end ImigrAI.Sessions
