import ImigrAI.Accounts.Tokens
import ImigrAI.Foundations.Fallible
import ImigrAI.Foundations.Runs

/-!
# Signing in

The endpoints under `/auth` over the table of users. A registration looks its e-mail up in one
statement of its transaction and inserts its user in a later one, so registrations interleave;
every other endpoint reads the table once.
-/

namespace ImigrAI.Accounts

open Python Runs Function
open Security (UserRole)

/-- The hashing of passwords, under a salt that is drawn for each hash. -/
class PasswordHasher where
  hash : String → String → String
  verify : String → String → Bool
  verify_hash : ∀ salt password, verify password (hash salt password) = true

abbrev RequestId := ℕ

structure Registration where
  email : String
  password : String
deriving DecidableEq

structure TokenPair (Token : Type) where
  accessToken : Token
  refreshToken : Token
deriving DecidableEq

/-- What an endpoint has answered with tokens. -/
inductive Event where
  | registered (userId : UUID) (registration : Registration) (instant : Instant)
  | loggedIn (userId : UUID) (registration : Registration) (instant : Instant)
  | refreshed (subject : String) (instant : Instant)
deriving DecidableEq

/-- The users, the registrations that have found no user of their e-mail, the tokens that were
issued, and the events so far. -/
structure State (Token : Type) where
  users : List User
  lookedUp : RequestId → Option Registration
  issued : List Token
  events : List Event

inductive Action (Token : Type) where
  /-- The lookup of `register`. -/
  | lookUp (request : RequestId) (registration : Registration)
  /-- Its insert, with the id and the salt that are drawn. -/
  | insert (request : RequestId) (id : UUID) (salt : String) (now : Instant)
  | login (registration : Registration) (now : Instant)
  | refresh (token : Token) (now : Instant)
  | me (credentials : Option Token) (now : Instant)

inductive Answer (Token : Type) where
  /-- The request goes on. -/
  | continues
  | tokens (pair : TokenPair Token)
  | user (user : User)
deriving DecidableEq

def getByEmail (users : List User) (email : String) : Option User :=
  users.find? fun user => user.email = email

theorem getByEmail_eq_some {users : List User} {email : String} {user : User}
    (found : getByEmail users email = some user) : user ∈ users ∧ user.email = email :=
  ⟨List.mem_of_find?_eq_some found, by simpa using List.find?_some found⟩

/-- A user has the e-mail or the id. -/
def Taken (users : List User) (email : String) (id : UUID) : Prop :=
  ∃ user ∈ users, user.email = email ∨ user.id = id

instance (users : List User) (email : String) (id : UUID) : Decidable (Taken users email id) :=
  inferInstanceAs (Decidable (∃ user ∈ users, _))

section Endpoints

variable {Token : Type} [Jwt Token] [UnicodeData] [PasswordHasher] (settings : Settings)

/-- The role of a new user. -/
def newRole (email : String) : UserRole :=
  if UnicodeData.lower email ∈ settings.adminEmails.map UnicodeData.lower then .admin else .member

def newUser (registration : Registration) (id : UUID) (salt : String) : User where
  id := id
  email := registration.email
  passwordHash := PasswordHasher.hash salt registration.password
  role := newRole settings registration.email
  isActive := true

def issueTokens (subject : String) (now : Instant) : TokenPair Token :=
  ⟨createAccessToken settings subject now, createRefreshToken settings subject now⟩

/-- The tokens go out, and the event is noted. -/
def issue (state : State Token) (subject : String) (now : Instant) (event : Event) :
    State Token × Except AuthError (Answer Token) :=
  let pair : TokenPair Token := issueTokens settings subject now
  ({ state with
    issued := state.issued ++ [pair.accessToken, pair.refreshToken]
    events := state.events ++ [event] }, .ok (.tokens pair))

def lookUp (state : State Token) (request : RequestId) (registration : Registration) :
    State Token × Except AuthError (Answer Token) :=
  match getByEmail state.users registration.email with
  | some _ => (state, .error (.http 409 "Email already registered"))
  | none => ({ state with lookedUp := update state.lookedUp request (some registration) },
      .ok .continues)

/-- The insert, which the unique columns may refuse. -/
def insertUser (state : State Token) (registration : Registration) (id : UUID) (salt : String)
    (now : Instant) : State Token × Except AuthError (Answer Token) :=
  if Taken state.users registration.email id then (state, .error .integrityError)
  else
    issue settings { state with users := state.users ++ [newUser settings registration id salt] }
      id.str now (.registered id registration now)

def login (state : State Token) (registration : Registration) (now : Instant) :
    State Token × Except AuthError (Answer Token) :=
  match getByEmail state.users registration.email with
  | none => (state, .error (.http 401 "Invalid credentials"))
  | some user =>
      if PasswordHasher.verify registration.password user.passwordHash then
        issue settings state user.id.str now (.loggedIn user.id registration now)
      else (state, .error (.http 401 "Invalid credentials"))

def refresh (state : State Token) (token : Token) (now : Instant) :
    State Token × Except AuthError (Answer Token) :=
  match decodeToken token "refresh" now with
  | .error error => (state, .error error)
  | .ok subject => issue settings state subject now (.refreshed subject now)

/-- A step, with the answer. A registration that was not looked up inserts nothing. -/
def respond (state : State Token) : Action Token → State Token × Except AuthError (Answer Token)
  | .lookUp request registration => lookUp state request registration
  | .insert request id salt now =>
      match state.lookedUp request with
      | none => (state, .ok .continues)
      | some registration => insertUser settings
          { state with lookedUp := update state.lookedUp request none } registration id salt now
  | .login registration now => login settings state registration now
  | .refresh token now => refresh settings state token now
  | .me credentials now =>
      (state, (getCurrentUser state.users credentials now).map .user)

def step (state : State Token) (action : Action Token) : State Token :=
  (respond settings state action).1

def answer (state : State Token) (action : Action Token) : Except AuthError (Answer Token) :=
  (respond settings state action).2

/-- Before the first request. -/
def start (users : List User) : State Token := ⟨users, fun _ => none, [], []⟩

/-- Nobody but the server signs tokens: one with a good signature was issued before. -/
def Unforged (state : State Token) : Action Token → Prop
  | .refresh token _ | .me (some token) _ => Jwt.verify token ≠ none → token ∈ state.issued
  | _ => True

/-- The user has signed in with the e-mail and the password of the row. -/
def SignsIn (state : State Token) (userId : UUID) (instant : Instant) : Prop :=
  ∃ registration : Registration,
    (.registered userId registration instant ∈ state.events ∨
      .loggedIn userId registration instant ∈ state.events) ∧
    ∃ user ∈ state.users, user.id = userId ∧ user.email = registration.email ∧
      PasswordHasher.verify registration.password user.passwordHash

/-- The user has a session whose tokens were last issued at the instant: it was begun by signing
in and has been refreshed before each refresh token expired. -/
inductive Session (state : State Token) : UUID → Instant → Prop
  | signIn {userId : UUID} {instant : Instant} (signsIn : SignsIn state userId instant) :
      Session state userId instant
  | refresh {userId : UUID} {earlier instant : Instant} (session : Session state userId earlier)
      (noted : .refreshed userId.str instant ∈ state.events)
      (inTime : timestamp (instant : ℕ) ≤ expiry settings.jwtRefreshTokenExpireMinutes earlier) :
      Session state userId instant

/-- The tokens of a session. -/
def OfSession (state : State Token) (token : Token) : Prop :=
  ∃ userId instant, Session settings state userId instant ∧
    (token = createAccessToken settings userId.str instant ∨
      token = createRefreshToken settings userId.str instant)

/-- Why tokens are issued, with the users from then on. -/
inductive Cause (state : State Token) :
    Action Token → List User → String → Instant → Event → Prop
  | registered {request : RequestId} {registration : Registration} {id : UUID} {salt : String}
      {now : Instant} (pending : state.lookedUp request = some registration)
      (fresh : ∀ user ∈ state.users, user.email ≠ registration.email ∧ user.id ≠ id) :
      Cause state (.insert request id salt now)
        (state.users ++ [newUser settings registration id salt]) id.str now
        (.registered id registration now)
  | loggedIn {registration : Registration} {now : Instant} {user : User}
      (stored : user ∈ state.users) (isOf : user.email = registration.email)
      (verified : PasswordHasher.verify registration.password user.passwordHash) :
      Cause state (.login registration now) state.users user.id.str now
        (.loggedIn user.id registration now)
  | refreshed {token : Token} {subject : String} {now : Instant}
      (accepts : Accepts token "refresh" subject now) :
      Cause state (.refresh token now) state.users subject now (.refreshed subject now)

/-- A step issues tokens for a cause, or leaves users, tokens and events as they are. -/
inductive Effect (state : State Token) (action : Action Token) (after : State Token)
    (answer : Except AuthError (Answer Token)) : Prop
  | quiet (users : after.users = state.users) (issued : after.issued = state.issued)
      (events : after.events = state.events) (silent : ∀ pair, answer ≠ .ok (.tokens pair))
  | issues {users : List User} {subject : String} {now : Instant} {event : Event}
      (cause : Cause settings state action users subject now event)
      (isUsers : after.users = users)
      (issued : after.issued = state.issued ++
        [createAccessToken settings subject now, createRefreshToken settings subject now])
      (events : after.events = state.events ++ [event])
      (answered : answer = .ok (.tokens (issueTokens settings subject now)))

variable {settings} {state : State Token}

theorem effect_login (registration : Registration) (now : Instant) :
    Effect settings state (.login registration now) (login settings state registration now).1
      (login settings state registration now).2 := by
  unfold login
  split
  · exact .quiet rfl rfl rfl (by simp)
  · rename_i user found
    rcases getByEmail_eq_some found with ⟨stored, isOf⟩
    split_ifs with verified
    · exact .issues (.loggedIn stored isOf verified) rfl rfl rfl rfl
    · exact .quiet rfl rfl rfl (by simp)

theorem effect_refresh (token : Token) (now : Instant) :
    Effect settings state (.refresh token now) (refresh settings state token now).1
      (refresh settings state token now).2 := by
  unfold refresh
  split
  · exact .quiet rfl rfl rfl (by simp)
  · rename_i subject decoded
    exact .issues (.refreshed (decodeToken_eq_ok_iff.mp decoded).2) rfl rfl rfl rfl

theorem effect_insert {request : RequestId} {registration : Registration}
    (pending : state.lookedUp request = some registration) (id : UUID) (salt : String)
    (now : Instant) (lookedUp : RequestId → Option Registration) :
    Effect settings state (.insert request id salt now)
      (insertUser settings { state with lookedUp := lookedUp } registration id salt now).1
      (insertUser settings { state with lookedUp := lookedUp } registration id salt now).2 := by
  unfold insertUser
  split_ifs with taken
  · exact .quiet rfl rfl rfl (by simp)
  · have fresh : ∀ user ∈ state.users, user.email ≠ registration.email ∧ user.id ≠ id := by
      intro user stored
      rw [← not_or]
      intro same
      exact taken ⟨user, stored, same⟩
    exact .issues (.registered pending fresh) rfl rfl rfl rfl

variable (settings) in
theorem effect_step (state : State Token) (action : Action Token) :
    Effect settings state action (step settings state action) (answer settings state action) := by
  cases action with
  | lookUp request registration =>
      rw [step, answer, respond, lookUp]
      split <;> exact .quiet rfl rfl rfl (by simp)
  | insert request id salt now =>
      rw [step, answer, respond]
      split
      · exact .quiet rfl rfl rfl (by simp)
      · rename_i registration pending
        exact effect_insert pending id salt now _
  | login registration now => exact effect_login registration now
  | refresh token now => exact effect_refresh token now
  | me credentials now =>
      refine .quiet rfl rfl rfl ?_
      intro pair same
      cases result : getCurrentUser state.users credentials now <;>
        simp [answer, respond, result, Except.map] at same

end Endpoints

end ImigrAI.Accounts
