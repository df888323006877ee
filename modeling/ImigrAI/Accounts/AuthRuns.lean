import ImigrAI.Accounts.Auth
import ImigrAI.Foundations.Rows

/-!
# Runs of the authentication endpoints

Whoever is let in has signed in with the right password and has kept the session up, and whoever
has signed in is let in until the tokens expire, in every interleaving of requests. An e-mail
never gets a second user.
-/

namespace ImigrAI.Accounts

open Python Runs

variable {Token : Type} {settings : Settings}

/-- Users, tokens and events are only added. -/
structure Grows (before after : State Token) : Prop where
  users : before.users <+: after.users
  issued : before.issued <+: after.issued
  events : before.events <+: after.events

theorem Grows.refl (state : State Token) : Grows state state :=
  ⟨List.prefix_rfl, List.prefix_rfl, List.prefix_rfl⟩

theorem Grows.trans {first second third : State Token} (earlier : Grows first second)
    (later : Grows second third) : Grows first third :=
  ⟨earlier.users.trans later.users, earlier.issued.trans later.issued,
    earlier.events.trans later.events⟩

section Steps

variable [Jwt Token] [UnicodeData] [PasswordHasher]

theorem Cause.users_prefix {state : State Token} {action : Action Token} {users : List User}
    {subject : String} {now : Instant} {event : Event}
    (cause : Cause settings state action users subject now event) : state.users <+: users := by
  cases cause with
  | registered => exact List.prefix_append _ _
  | loggedIn => exact List.prefix_rfl
  | refreshed => exact List.prefix_rfl

variable (settings) in
theorem grows_step (state : State Token) (action : Action Token) :
    Grows state (step settings state action) := by
  cases effect_step settings state action with
  | quiet users issued events =>
      exact ⟨by rw [users], by rw [issued], by rw [events]⟩
  | issues cause users issued events =>
      refine ⟨?_, ?_, ?_⟩
      · rw [users]
        exact cause.users_prefix
      · rw [issued]
        exact List.prefix_append _ _
      · rw [events]
        exact List.prefix_append _ _

end Steps

section Sessions

variable [PasswordHasher] {before after : State Token} (grows : Grows before after)

include grows

theorem SignsIn.grow {userId : UUID} {instant : Instant} (signsIn : SignsIn before userId instant) :
    SignsIn after userId instant := by
  rcases signsIn with ⟨registration, noted, user, stored, verified⟩
  refine ⟨registration, ?_, user, grows.users.subset stored, verified⟩
  exact noted.imp (fun mem => grows.events.subset mem) fun mem => grows.events.subset mem

theorem Session.grow {userId : UUID} {instant : Instant}
    (session : Session settings before userId instant) : Session settings after userId instant := by
  induction session with
  | signIn signsIn => exact .signIn (signsIn.grow grows)
  | refresh _ noted inTime ih => exact .refresh ih (grows.events.subset noted) inTime

theorem OfSession.grow [Jwt Token] {token : Token} (ofSession : OfSession settings before token) :
    OfSession settings after token := by
  rcases ofSession with ⟨userId, instant, session, isToken⟩
  exact ⟨userId, instant, session.grow grows, isToken⟩

end Sessions

theorem Accepts.verifies [Jwt Token] {token : Token} {tokenType subject : String} {now : Instant}
    (accepts : Accepts token tokenType subject now) : Jwt.verify token ≠ none := by
  rcases accepts with ⟨claims, verified, -⟩
  simp [verified]

/-- What a signed token is accepted for belongs to a session. -/
theorem OfSession.accepts [Jwt Token] [PasswordHasher] {state : State Token} {token : Token} {tokenType subject : String}
    {now : Instant} (ofSession : OfSession settings state token)
    (accepts : Accepts token tokenType subject now) :
    ∃ userId instant, Session settings state userId instant ∧ subject = userId.str ∧
      (tokenType = "access" → timestamp (now : ℕ) ≤
        expiry settings.jwtAccessTokenExpireMinutes instant) ∧
      (tokenType = "refresh" → timestamp (now : ℕ) ≤
        expiry settings.jwtRefreshTokenExpireMinutes instant) := by
  rcases ofSession with ⟨userId, instant, session, rfl | rfl⟩
  · rcases accepts_createToken.mp accepts with ⟨inTime, rfl, rfl⟩
    exact ⟨userId, instant, session, rfl, fun _ => inTime, by simp⟩
  · rcases accepts_createToken.mp accepts with ⟨inTime, rfl, rfl⟩
    exact ⟨userId, instant, session, rfl, by simp, fun _ => inTime⟩

theorem getCurrentUser_eq_ok [Jwt Token] [UnicodeData] {users : List User} {token : Token} {now : Instant} {user : User}
    (found : getCurrentUser users (some token) now = .ok user) :
    ∃ subject, Accepts token "access" subject now ∧ uuidOfText subject = .ok user.id ∧
      user ∈ users ∧ user.isActive := by
  rcases Fallible.bind_eq_ok_iff.mp found with ⟨subject, decoded, found⟩
  rcases Fallible.bind_eq_ok_iff.mp found with ⟨userId, read, found⟩
  refine ⟨subject, (decodeToken_eq_ok_iff.mp decoded).2, ?_⟩
  cases first : users.find? fun user => user.id = userId with
  | none => simp [first] at found
  | some other =>
      have isOther : other.id = userId := by simpa using List.find?_some first
      by_cases active : other.isActive
      · simp only [first, active, if_true, Except.ok.injEq] at found
        subst found
        refine ⟨?_, List.mem_of_find?_eq_some first, active⟩
        rw [isOther]
        exact Fallible.mapError_eq_ok_iff.mp read
      · simp [first, active] at found

theorem decodeToken_createToken [Jwt Token] {id : UUID} {tokenType : String} {minutes : ℤ}
    {created now : Instant} :
    decodeToken (createToken id.str tokenType minutes created : Token) tokenType now =
      if timestamp (now : ℕ) ≤ expiry minutes created then .ok id.str
      else .error (.http 401 "Could not validate credentials") := by
  split_ifs with inTime
  · rw [decodeToken_eq_ok_iff]
    exact ⟨UUID.str_ne_empty id, accepts_createToken.mpr ⟨inTime, rfl, rfl⟩⟩
  · have expired : expiry minutes created < timestamp (now : ℕ) := by omega
    simp [decodeToken, jwtDecode, createToken, Jwt.verify_encode, expired]

section Runs

variable [Jwt Token] [UnicodeData] [PasswordHasher]

/-- All tokens are those of sessions. -/
def Sound (settings : Settings) (state : State Token) : Prop :=
  ∀ token ∈ state.issued, OfSession settings state token

/-- The tokens that a step issues are those of a session. -/
theorem Cause.session {state after : State Token} {action : Action Token} {users : List User}
    {subject : String} {now : Instant} {event : Event} (sound : Sound settings state)
    (unforged : Unforged state action)
    (cause : Cause settings state action users subject now event) (isUsers : after.users = users)
    (events : after.events = state.events ++ [event]) (grows : Grows state after) :
    ∃ userId, subject = userId.str ∧ Session settings after userId now := by
  cases cause with
  | @registered _ registration id salt _ _ fresh =>
      refine ⟨id, rfl, .signIn ⟨registration, .inl ?_, newUser settings registration id salt, ?_⟩⟩
      · simp [events]
      · simp [isUsers, newUser, PasswordHasher.verify_hash]
  | @loggedIn registration _ user stored isOf verified =>
      refine ⟨user.id, rfl, .signIn ⟨registration, .inr ?_, user, ?_⟩⟩
      · simp [events]
      · exact ⟨isUsers ▸ stored, rfl, isOf, verified⟩
  | @refreshed token _ _ accepts =>
      rcases (sound token (unforged accepts.verifies)).accepts accepts with
        ⟨userId, instant, session, rfl, -, inTime⟩
      refine ⟨userId, rfl, (session.grow grows).refresh ?_ (inTime rfl)⟩
      simp [events]

/-- The unique columns of the users. -/
def Unique (users : List User) : Prop :=
  (users.map (·.email)).Nodup ∧ (users.map (·.id)).Nodup

theorem Cause.unique {state : State Token} {action : Action Token} {users : List User}
    {subject : String} {now : Instant} {event : Event} (unique : Unique state.users)
    (cause : Cause settings state action users subject now event) : Unique users := by
  cases cause with
  | registered _ fresh =>
      rcases unique with ⟨emails, ids⟩
      refine ⟨Rows.nodup_map_append_singleton.mpr ⟨?_, emails⟩,
        Rows.nodup_map_append_singleton.mpr ⟨?_, ids⟩⟩
      · rw [List.mem_map]
        rintro ⟨user, stored, same⟩
        exact (fresh user stored).1 same
      · rw [List.mem_map]
        rintro ⟨user, stored, same⟩
        exact (fresh user stored).2 same
  | loggedIn => exact unique
  | refreshed => exact unique

variable (settings) in
theorem unique_step {state : State Token} (unique : Unique state.users) (action : Action Token) :
    Unique (step settings state action).users := by
  cases effect_step settings state action with
  | quiet users => rwa [users]
  | issues cause users =>
      rw [users]
      exact cause.unique unique

variable (settings) in
theorem unique_run {state : State Token} (unique : Unique state.users)
    (actions : List (Action Token)) : Unique (run (step settings) state actions).users := by
  have kept : ∀ visited action, Unique visited.users →
      Unique (step settings visited action).users :=
    fun (visited : State Token) action before => unique_step settings before action
  exact invariant_run kept unique actions

theorem Sound.step {state : State Token} {action : Action Token} (sound : Sound settings state)
    (unforged : Unforged state action) : Sound settings (Accounts.step settings state action) := by
  have grows := grows_step settings state action
  cases effect_step settings state action with
  | quiet _ issued =>
      rw [Sound, issued]
      intro token issuedBefore
      exact (sound token issuedBefore).grow grows
  | @issues users subject now event cause isUsers issued events =>
      rcases cause.session sound unforged isUsers events grows with ⟨userId, rfl, session⟩
      rw [Sound, issued]
      intro token mem
      rcases List.mem_append.mp mem with before | new
      · exact (sound token before).grow grows
      · refine ⟨userId, now, session, ?_⟩
        simpa using new

theorem sound_run {users : List User} {actions : List (Action Token)}
    (unforged : Along (step settings) Unforged (start users) actions) :
    Sound settings (run (step settings) (start users) actions) := by
  apply invariant_run_of_along (fun _ _ => Sound.step) _ unforged
  intro token issued
  cases issued

/-- Whoever a request is let in as is an active user with a session: a sign-in with the right
password, refreshes in time since then, and an access token that has not expired. -/
theorem session_of_current_user {users : List User} {actions : List (Action Token)}
    (unforged : Along (step settings) Unforged (start users) actions) (token : Token)
    {now : Instant} (presented : Unforged (run (step settings) (start users) actions)
      (.me (some token) now)) {user : User}
    (letIn : answer settings (run (step settings) (start users) actions) (.me (some token) now) =
      .ok (.user user)) :
    user ∈ (run (step settings) (start users) actions).users ∧ user.isActive ∧
      ∃ instant, Session settings (run (step settings) (start users) actions) user.id instant ∧
        timestamp (now : ℕ) ≤ expiry settings.jwtAccessTokenExpireMinutes instant := by
  rcases Fallible.map_eq_ok_iff.mp letIn with ⟨found, isFound, same⟩
  cases same
  rcases getCurrentUser_eq_ok isFound with ⟨subject, accepts, read, stored, active⟩
  refine ⟨stored, active, ?_⟩
  rcases (sound_run unforged token (presented accepts.verifies)).accepts accepts with
    ⟨userId, instant, session, rfl, inTime, -⟩
  rw [uuidOfText_str, Except.ok.injEq] at read
  subst read
  exact ⟨instant, session, inTime rfl⟩

omit [PasswordHasher] in
theorem getCurrentUser_createToken {users : List User} (unique : Unique users) {user : User}
    (stored : user ∈ users) {minutes : ℤ} {created now : Instant} :
    getCurrentUser users (some (createToken user.id.str "access" minutes created : Token)) now =
      if timestamp (now : ℕ) ≤ expiry minutes created then
        if user.isActive then .ok user else .error (.http 403 "User is inactive")
      else .error (.http 401 "Could not validate credentials") := by
  have found : users.find? (fun other => decide (other.id = user.id)) = some user :=
    (Rows.find?_eq_some_iff_of_nodup unique.2).mpr ⟨stored, rfl⟩
  rw [getCurrentUser, decodeToken_createToken]
  by_cases inTime : timestamp (now : ℕ) ≤ expiry minutes created
  · rw [if_pos inTime, if_pos inTime]
    simp only [bind, Except.bind, uuidOfText_str, Except.mapError, found]
  · rw [if_neg inTime, if_neg inTime]
    rfl

/-- The ids and e-mails that registrations were accepted for. -/
def registrations (events : List Event) : List (UUID × String) :=
  events.filterMap fun
    | .registered id registration _ => some (id, registration.email)
    | _ => none

omit [Jwt Token] [UnicodeData] [PasswordHasher] in
theorem registrations_append (first second : List Event) :
    registrations (first ++ second) = registrations first ++ registrations second :=
  List.filterMap_append

/-- Beside the users of the start there is one for each accepted registration. -/
def Registers (settings : Settings) (users : List User) (state : State Token) : Prop :=
  ∃ new, state.users = users ++ new ∧
    (new.map fun user => (user.id, user.email)) = registrations state.events ∧
    ∀ user ∈ new, user.role = newRole settings user.email ∧ user.isActive

theorem Registers.step {users : List User} {state : State Token}
    (registers : Registers settings users state) (action : Action Token) :
    Registers settings users (Accounts.step settings state action) := by
  rcases registers with ⟨new, isUsers, accepted, made⟩
  cases effect_step settings state action with
  | quiet sameUsers _ events =>
      exact ⟨new, sameUsers.trans isUsers, by rw [accepted, events], made⟩
  | issues cause after _ events =>
      cases cause with
      | @registered _ registration id salt _ _ _ =>
          refine ⟨new ++ [newUser settings registration id salt], ?_, ?_, ?_⟩
          · rw [after, isUsers, List.append_assoc]
          · rw [events, registrations_append, List.map_append, accepted]
            rfl
          · rw [List.forall_mem_append]
            refine ⟨made, ?_⟩
            simp [newUser]
      | loggedIn => exact ⟨new, after.trans isUsers, by simp [accepted, events, registrations], made⟩
      | refreshed =>
          exact ⟨new, after.trans isUsers, by simp [accepted, events, registrations], made⟩

/-- The answer to the insert of a registration. -/
theorem answer_insert {state : State Token} {request : RequestId} {registration : Registration}
    (pending : state.lookedUp request = some registration) (id : UUID) (salt : String)
    (now : Instant) :
    answer settings state (.insert request id salt now) =
      if Taken state.users registration.email id then .error .integrityError
      else .ok (.tokens (issueTokens settings id.str now)) := by
  simp only [answer, respond, pending, insertUser]
  split_ifs <;> rfl

/-- However the lookups and inserts of registrations interleave, each accepted one has one user with
the role of its e-mail, e-mails and ids stay unique, and a registration that has looked its e-mail
up is turned away exactly if a user has taken the e-mail or the id meanwhile. -/
theorem registrations_unique (settings : Settings) {users : List User} (unique : Unique users)
    (actions : List (Action Token)) :
    Registers settings users (run (step settings) (start users) actions) ∧
    Unique (run (step settings) (start users) actions).users ∧
    ((registrations (run (step settings) (start users) actions).events).map Prod.snd).Nodup ∧
    ∀ request registration,
      (run (step settings) (start users) actions).lookedUp request = some registration →
      ∀ id salt now, answer settings (run (step settings) (start users) actions)
          (.insert request id salt now) =
        if Taken (run (step settings) (start users) actions).users registration.email id then
          .error .integrityError
        else .ok (.tokens (issueTokens settings id.str now)) := by
  have begins : Registers settings users (start users : State Token) :=
    ⟨[], by simp [start], by simp [start, registrations], by simp⟩
  have registers : Registers settings users (run (step settings) (start users) actions) :=
    invariant_run (fun _ action kept => kept.step action) begins actions
  have distinct : Unique (run (step settings) (start users) actions).users :=
    unique_run settings unique actions
  refine ⟨registers, distinct, ?_, ?_⟩
  · rcases registers with ⟨new, isUsers, accepted, -⟩
    rw [← accepted, List.map_map]
    have emails := distinct.1
    rw [isUsers, List.map_append] at emails
    exact (List.nodup_append.mp emails).2.1
  · intro request registration pending id salt now
    exact answer_insert pending id salt now

end Runs

section Samples

local instance sampleJwt : Jwt Claims := ⟨id, some, fun _ => rfl⟩

local instance samplePasswords : PasswordHasher :=
  ⟨fun _ password => password, fun password hashed => password = hashed, by simp⟩

local instance sampleUnicode : UnicodeData := .ascii

def sampleSettings : Settings := ⟨["ana@example.com"], 30, 10080⟩

/-- Two requests register the same e-mail at the same time. -/
def sampleRace : List (Action Claims) :=
  [.lookUp 1 ⟨"ana@example.com", "segredo-1"⟩, .lookUp 2 ⟨"ana@example.com", "segredo-2"⟩,
    .insert 2 8 "sal" 63000000000000000, .insert 1 7 "sal" 63000000000000000]

def sampleUser : User := ⟨8, "ana@example.com", "segredo-2", .admin, true⟩

def sampleAccess : Claims :=
  createAccessToken sampleSettings "00000000-0000-0000-0000-000000000008" 63000000000000000

theorem unique_nil : Unique [] := ⟨List.nodup_nil, List.nodup_nil⟩

theorem sampleRace_unforged : Along (step sampleSettings) Unforged (start []) sampleRace :=
  ⟨trivial, trivial, trivial, trivial, trivial⟩

theorem session_of_current_user_sample :
    sampleUser ∈ (run (step sampleSettings) (start []) sampleRace).users ∧
      sampleUser.isActive ∧
      ∃ instant, Session sampleSettings (run (step sampleSettings) (start []) sampleRace)
          sampleUser.id instant ∧
        timestamp (63000000060000000 : Instant) ≤
          expiry sampleSettings.jwtAccessTokenExpireMinutes instant := by
  apply session_of_current_user sampleRace_unforged sampleAccess
  · intro _
    decide +kernel
  · decide +kernel

theorem registrations_unique_sample :
    ((registrations (run (step sampleSettings) (start []) sampleRace).events).map
      Prod.snd).Nodup ∧
    (registrations (run (step sampleSettings) (start []) sampleRace).events) =
      [(8, "ana@example.com")] := by
  have unique := registrations_unique sampleSettings unique_nil sampleRace
  exact ⟨unique.2.2.1, by decide +kernel⟩

end Samples

end ImigrAI.Accounts
