import ImigrAI.Foundations.RowPolicies
import ImigrAI.Security.RlsContext

/-!
# Writing under the policies

Any table with a column for its owner, under the requests of members over shared connections: the
rows of a member are what the statements of this member alone leave.
-/

namespace ImigrAI.Security.Tenancy

open Python Runs RowPolicies

variable {Entry : Type} (userId : Entry → UUID)

/-- The policy of a table whose rows have an owner. -/
def admitsOwner (settings : Settings) (row : Entry) : Bool :=
  settings.appCurrentUserRole = .admin ∨ settings.currentUserId = some (userId row)

/-- A step of a request. A statement of it may write rows, and may fail for reasons other than
the policy. -/
structure WriteStep (Entry : Type) where
  action : Action
  write : Option (Write Entry)
  aborted : Bool

/-- What the statement of a step writes, under the settings that it runs under. -/
def WriteStep.statement (state : State) (writeStep : WriteStep Entry) :
    Option (Statement Settings Entry) := do
  let execution ← executionOf state writeStep.action
  let write ← writeStep.write
  some ⟨execution.settings, write, writeStep.aborted⟩

/-- The statements of a run that write rows. -/
def statements (state : State) : List (WriteStep Entry) → List (Statement Settings Entry)
  | [] => []
  | first :: rest => (first.statement state).toList ++ statements (step state first.action) rest

/-- Who asks is a member. -/
def OfMember : Action → Prop
  | .getCurrentUser _ user _ => user.role = .member
  | _ => True

instance : (action : Action) → Decidable (OfMember action)
  | .getCurrentUser _ user _ => inferInstanceAs (Decidable (user.role = .member))
  | .execute .. | .commit _ | .rollback _ | .close _ => isTrue trivial

/-- All sessions are of members. -/
def Members (state : State) : Prop :=
  ∀ request session, state.sessions request = some session → session.user.role = .member

theorem members_initial : Members initial := by
  intro request session found
  cases found

/-- Changing the session of one request keeps the members. -/
theorem members_update {state : State} (members : Members state) {request : RequestId}
    {after : Option Session} (member : ∀ session, after = some session → session.user.role = .member)
    (connections : ConnectionId → Connection) (executed : List Execution) :
    Members ⟨connections, Function.update state.sessions request after, executed⟩ := by
  intro other session found
  dsimp only at found
  rw [Function.update_apply] at found
  split_ifs at found
  · exact member session found
  · exact members other session found

theorem members_step {state : State} (members : Members state) {action : Action}
    (ofMember : OfMember action) : Members (step state action) := by
  cases action with
  | getCurrentUser request user connection =>
      rw [step, getCurrentUser]
      split_ifs
      · apply members_update members
        rintro session same
        cases same
        exact ofMember
      · exact members
  | execute request table connection =>
      rw [step, execute]
      split
      · rename_i session found
        split
        · exact members
        · split_ifs
          · apply members_update members
            rintro next same
            cases same
            exact members request session found
          · exact members
      · exact members
  | commit request | rollback request =>
      rw [step, endTransaction]
      split
      · rename_i session found
        apply members_update members
        rintro next same
        cases same
        exact members request session found
      · exact members
  | close request =>
      rw [step, close]
      split
      · exact members_update members (by simp) _ _
      · exact members

/-- A statement of a member runs under the member's context or under nobody's. -/
def UnderMember (settings : Settings) : Prop :=
  settings = .unset ∨ ∃ id, settings = .ofUser ⟨id, .member⟩

theorem underMember_of_executionOf {state : State} (members : Members state) {action : Action}
    {execution : Execution} (ran : executionOf state action = some execution) :
    UnderMember execution.settings := by
  cases action with
  | execute request table connection =>
      rcases Option.bind_eq_some_iff.mp ran with ⟨session, found, made⟩
      split_ifs at made
      cases made
      have member := members request session found
      simp only [Session.settings]
      split_ifs
      · exact .inl rfl
      · refine .inr ⟨session.user.id, ?_⟩
        simp [Settings.ofUser, member]
  | _ => cases ran

theorem underMember_of_mem_statements {steps : List (WriteStep Entry)}
    (ofMembers : ∀ writeStep ∈ steps, OfMember writeStep.action) {state : State}
    (members : Members state) {statement : Statement Settings Entry}
    (mem : statement ∈ statements state steps) : UnderMember statement.principal := by
  induction steps generalizing state with
  | nil => cases mem
  | cons first rest ih =>
      rw [List.forall_mem_cons] at ofMembers
      rcases List.mem_append.mp mem with here | later
      · rcases Option.bind_eq_some_iff.mp (Option.mem_toList.mp here) with ⟨execution, ran, wrote⟩
        rcases Option.bind_eq_some_iff.mp wrote with ⟨write, -, made⟩
        cases made
        exact underMember_of_executionOf members ran
      · exact ih ofMembers.2 (members_step members ofMembers.1) later

theorem oneTenant_of_underMember {statement : Statement Settings Entry}
    (under : UnderMember statement.principal) :
    OneTenant (admitsOwner userId) userId (·.currentUserId) statement := by
  intro row
  rcases under with unset | ⟨id, ofUser⟩
  · simp [unset, admitsOwner, Settings.unset, Settings.appCurrentUserRole]
  · simp [ofUser, admitsOwner, Settings.ofUser, Settings.appCurrentUserRole]

/-- After any run of requests of members over shared connections, the rows of a member are what
the member's own statements make of the member's rows. These are the statements of the first
transactions of the member's requests. -/
theorem rows_of_member {steps : List (WriteStep Entry)}
    (ofMembers : ∀ writeStep ∈ steps, OfMember writeStep.action) (member : UUID)
    (rows : List Entry) :
    (run (RowPolicies.execute (admitsOwner userId)) rows (statements initial steps)).filter
        (userId · = member) =
      run (RowPolicies.execute (admitsOwner userId)) (rows.filter (userId · = member))
        ((statements initial steps).filter
          fun statement => statement.principal = .ofUser ⟨member, .member⟩) := by
  have under (statement) (mem : statement ∈ statements initial steps) :=
    underMember_of_mem_statements ofMembers members_initial mem
  rw [filter_run fun statement mem => oneTenant_of_underMember userId (under statement mem)]
  congr 1
  apply List.filter_congr
  intro statement mem
  rw [decide_eq_decide]
  rcases under statement mem with unset | ⟨id, ofUser⟩
  · simp [unset, Settings.unset, Settings.ofUser]
  · simp [ofUser, Settings.ofUser]

def sampleSteps : List (WriteStep (UUID × ℕ)) :=
  [⟨.getCurrentUser 1 ⟨7, .member⟩ 0, none, false⟩,
    ⟨.getCurrentUser 2 ⟨9, .member⟩ 1, none, false⟩,
    ⟨.execute 1 .entitlements 0, some (.insert (7, 1)), false⟩,
    ⟨.execute 2 .entitlements 1, some (.insert (7, 2)), false⟩,
    ⟨.execute 1 .entitlements 0, some (.update (fun _ => true) fun row => (row.1, 5)), false⟩,
    ⟨.commit 1, none, false⟩,
    ⟨.execute 1 .entitlements 0, some (.insert (7, 3)), false⟩]

/-- Two members insert, one of them before and after a commit, and the third statement changes
every row that it may. -/
theorem rows_of_member_sample :
    (run (RowPolicies.execute (admitsOwner (Prod.fst : UUID × ℕ → UUID))) [(9, 0), (7, 0)]
        (statements initial sampleSteps)).filter (·.1 = 7) = [(7, 5), (7, 5)] := by
  rw [rows_of_member Prod.fst (by decide) 7]
  decide

end ImigrAI.Security.Tenancy
