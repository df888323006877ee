import ImigrAI.Accounts.AuthRuns
import ImigrAI.Frontend.ApiClient

/-!
# Calls of a signed-in user

The API client against the authentication of the server. Calls of one page are answered and
repeated in any order while other users come and go, and as long as a refresh token is exchanged
in time the user stays signed in and no call ends with 401.
-/

namespace ImigrAI.Frontend

open Python Runs Function
open Accounts (TokenPair User Settings Jwt PasswordHasher AuthError Unique createAccessToken
  createRefreshToken createToken getCurrentUser issueTokens timestamp expiry)

/-- The page and the server. -/
structure World (Token : Type) where
  client : Client Token
  server : Accounts.State Token

inductive WorldAction (Token : Type) where
  | call (id : CallId) (url : String)
  | send (id : CallId)
  /-- A request comes to an endpoint, which does with the user it lets in as it likes. -/
  | serve (id : CallId) (now : Instant) (outcome : Outcome)
  /-- A refresh token comes to the server. -/
  | exchange (id : CallId) (now : Instant)
  /-- The request that is under way is lost, or the answer to it. -/
  | lose (id : CallId)
  | cookieExpires
  /-- Somebody else signs in or out. -/
  | others (action : Accounts.Action Token)

section Worlds

variable {Token : Type} [Jwt Token] [UnicodeData] [PasswordHasher] (settings : Settings)

def statusOf : AuthError → Option ℕ
  | .http code _ => some code
  | .valueError | .integrityError => some 500

/-- An endpoint that depends on `get_current_user`. -/
def serve (users : List User) (authorization : Option Token) (now : Instant)
    (outcome : Outcome) : Outcome :=
  match getCurrentUser users authorization now with
  | .ok _ => outcome
  | .error error => .error (statusOf error)

def exchangeResult :
    Except AuthError (Accounts.Answer Token) → Except (Option ℕ) (TokenPair Token)
  | .ok (.tokens pair) => .ok pair
  | .ok _ => .error none
  | .error error => .error (statusOf error)

def exchange (world : World Token) (id : CallId) (refreshToken : Token) (now : Instant) :
    World Token where
  client := clientStep world.client (.refreshed id
    (exchangeResult (Accounts.answer settings world.server (.refresh refreshToken now))))
  server := Accounts.step settings world.server (.refresh refreshToken now)

def worldStep (world : World Token) : WorldAction Token → World Token
  | .call id url => { world with client := clientStep world.client (.call id url) }
  | .send id => { world with client := clientStep world.client (.send id) }
  | .serve id now outcome =>
      match world.client.calls id with
      | some ⟨config, .sent⟩ =>
          let answer := serve world.server.users config.authorization now outcome
          { world with client := clientStep world.client (.respond id answer) }
      | _ => world
  | .exchange id now =>
      match world.client.calls id with
      | some ⟨_, .refreshing token⟩ => exchange settings world id token now
      | _ => world
  | .lose id =>
      match world.client.calls id with
      | some ⟨_, .sent⟩ =>
          { world with client := clientStep world.client (.respond id (.error none)) }
      | some ⟨_, .refreshing _⟩ =>
          { world with client := clientStep world.client (.refreshed id (.error none)) }
      | _ => world
  | .cookieExpires => { world with client := clientStep world.client .cookieExpires }
  | .others action => { world with server := Accounts.step settings world.server action }

/-- A token has not expired. -/
def InTime (token : Token) (now : Instant) : Prop :=
  ∀ claims ∈ Jwt.verify token, timestamp (now : ℕ) ≤ claims.exp

/-- The token that a call waits for the exchange of. -/
def Phase.exchanged : Phase Token → Option Token
  | .refreshing refreshToken => some refreshToken
  | _ => none

/-- The page calls endpoints for users, which never answer whom they let in with 401. A refresh
token is exchanged in time, the access token of a call that is made again arrives in time, and
no exchange is lost. -/
def Prompt (world : World Token) : WorldAction Token → Prop
  | .call _ url => ¬ isAuthRoute url
  | .serve id now outcome =>
      outcome ≠ .error (some 401) ∧
        ∀ call ∈ world.client.calls id, call.config.retry →
          ∀ token ∈ call.config.authorization, InTime token now
  | .exchange id now =>
      ∀ call ∈ world.client.calls id, ∀ token ∈ call.phase.exchanged, InTime token now
  | .lose id => ∀ call ∈ world.client.calls id, call.phase.exchanged = none
  | _ => True

omit [UnicodeData] [PasswordHasher] in
instance (token : Token) (now : Instant) : Decidable (InTime token now) :=
  inferInstanceAs (Decidable (∀ claims ∈ Jwt.verify token, _))

instance [DecidableEq Token] (world : World Token) :
    (action : WorldAction Token) → Decidable (Prompt world action)
  | .call _ _ => inferInstanceAs (Decidable (¬ _))
  | .serve _ _ _ => inferInstanceAs (Decidable (_ ∧ _))
  | .exchange _ _ => inferInstanceAs (Decidable (∀ call ∈ _, ∀ token ∈ _, _))
  | .lose _ => inferInstanceAs (Decidable (∀ call ∈ _, _))
  | .send _ | .cookieExpires | .others _ => isTrue trivial

/-- A page that the user opens with tokens of some instant. -/
def signedIn (server : Accounts.State Token) (user : User) (instant : Instant) : World Token :=
  ⟨openPage (some (issueTokens settings user.id.str instant)), server⟩

def IsAccess (user : User) (token : Token) : Prop :=
  ∃ instant, token = createAccessToken settings user.id.str instant

def IsRefresh (user : User) (token : Token) : Prop :=
  ∃ instant, token = createRefreshToken settings user.id.str instant

/-- The tokens of a call under way are those of the user, and it has not ended with 401. -/
def CallOf (user : User) (call : Call Token) : Prop :=
  ¬ isAuthRoute call.config.url ∧
    match call.phase with
    | .prepared | .resolved => True
    | .sent => ∃ token, call.config.authorization = some token ∧ IsAccess settings user token
    | .refreshing token => IsRefresh settings user token
    | .rejected status => status ≠ some 401

structure StaysSignedIn (user : User) (world : World Token) : Prop where
  stored : user ∈ world.server.users
  unique : Unique world.server.users
  access : ∃ token, world.client.storage.accessToken = some token ∧ IsAccess settings user token
  refresh : ∃ token, world.client.storage.refreshToken = some token ∧ IsRefresh settings user token
  calls : ∀ id call, world.client.calls id = some call → CallOf settings user call

variable {settings} {user : User} {world : World Token}

omit [UnicodeData] [PasswordHasher] in
theorem inTime_createToken {subject tokenType : String} {minutes : ℤ} {created now : Instant} :
    InTime (createToken subject tokenType minutes created : Token) now ↔
      timestamp (now : ℕ) ≤ expiry minutes created := by
  simp [InTime, createToken, Jwt.verify_encode]

omit [PasswordHasher] in
/-- An access token of the user lets the user in. -/
theorem serve_inTime {users : List User} (unique : Unique users) (stored : user ∈ users)
    (active : user.isActive) {token : Token} (isAccess : IsAccess settings user token)
    {now : Instant} (inTime : InTime token now) (outcome : Outcome) :
    serve users (some token) now outcome = outcome := by
  rcases isAccess with ⟨instant, rfl⟩
  have early := inTime_createToken.mp inTime
  simp [serve, createAccessToken, Accounts.getCurrentUser_createToken unique stored, active, early]

omit [PasswordHasher] in
/-- One that has expired is answered with 401. -/
theorem serve_expired {users : List User} (unique : Unique users) (stored : user ∈ users)
    {token : Token} (isAccess : IsAccess settings user token) {now : Instant}
    (expired : ¬ InTime token now) (outcome : Outcome) :
    serve users (some token) now outcome = .error (some 401) := by
  rcases isAccess with ⟨instant, rfl⟩
  have late := mt inTime_createToken.mpr expired
  simp [serve, createAccessToken, Accounts.getCurrentUser_createToken unique stored, late, statusOf]

/-- A refresh token of the user is exchanged for a pair of the user. -/
theorem exchange_refresh {server : Accounts.State Token} {token : Token} {now : Instant}
    (isRefresh : IsRefresh settings user token) (inTime : InTime token now) :
    exchangeResult (Accounts.answer settings server (.refresh token now)) =
      .ok (issueTokens settings user.id.str now) := by
  rcases isRefresh with ⟨instant, rfl⟩
  have early := inTime_createToken.mp inTime
  simp [Accounts.answer, Accounts.respond, Accounts.refresh, createRefreshToken,
    Accounts.decodeToken_createToken, early, Accounts.issue, exchangeResult]

section Steps

variable {id : CallId} {config : RequestConfig Token}

theorem worldStep_serve (found : world.client.calls id = some ⟨config, .sent⟩) (now : Instant)
    (outcome : Outcome) :
    worldStep settings world (.serve id now outcome) =
      ⟨respond world.client id config
        (serve world.server.users config.authorization now outcome), world.server⟩ := by
  simp [worldStep, clientStep, found]

theorem worldStep_send (found : world.client.calls id = some ⟨config, .prepared⟩) :
    worldStep settings world (.send id) = ⟨send world.client id config, world.server⟩ := by
  simp [worldStep, clientStep, found]

theorem worldStep_exchange {token : Token}
    (found : world.client.calls id = some ⟨config, .refreshing token⟩) (now : Instant) :
    worldStep settings world (.exchange id now) = exchange settings world id token now := by
  simp [worldStep, found]

omit [UnicodeData] [PasswordHasher] in
theorem StaysSignedIn.place {storage : Storage Token} {requests : List (Request Token)}
    {received : List (TokenPair Token)} (stays : StaysSignedIn settings user world) (id : CallId)
    {call : Call Token} (ofUser : CallOf settings user call)
    (access : ∃ token, storage.accessToken = some token ∧ IsAccess settings user token)
    (refresh : ∃ token, storage.refreshToken = some token ∧ IsRefresh settings user token) :
    StaysSignedIn settings user
      ⟨⟨storage, update world.client.calls id (some call), requests, received⟩, world.server⟩ := by
  refine ⟨stays.stored, stays.unique, access, refresh, ?_⟩
  intro other found placed
  have cases : _ ∨ world.client.calls other = some found := calls_place placed
  rcases cases with ⟨rfl, rfl⟩ | before
  · exact ofUser
  · exact stays.calls other found before

theorem StaysSignedIn.serverStep (stays : StaysSignedIn settings user world)
    (action : Accounts.Action Token) :
    StaysSignedIn settings user ⟨world.client, Accounts.step settings world.server action⟩ :=
  ⟨(Accounts.grows_step settings world.server action).users.subset stays.stored,
    Accounts.unique_step settings stays.unique action, stays.access, stays.refresh, stays.calls⟩

omit [UnicodeData] [PasswordHasher] in
/-- An answer other than 401 ends the call. -/
theorem StaysSignedIn.ends (stays : StaysSignedIn settings user world) {id : CallId}
    {config : RequestConfig Token} (found : world.client.calls id = some ⟨config, .sent⟩)
    {outcome : Outcome} (other : outcome ≠ .error (some 401)) :
    respond world.client id config outcome = world.client.place id ⟨config, outcome.phase⟩ ∧
      StaysSignedIn settings user ⟨respond world.client id config outcome, world.server⟩ := by
  have placed :
      respond world.client id config outcome = world.client.place id ⟨config, outcome.phase⟩ := by
    cases outcome with
    | ok | thrown => rfl
    | error status =>
        have not401 : status ≠ some 401 := by simpa using other
        simp [respond, not401, Outcome.phase]
  refine ⟨placed, ?_⟩
  rw [placed]
  apply stays.place id ?_ stays.access stays.refresh
  refine ⟨(stays.calls id _ found).1, ?_⟩
  cases outcome <;> simp [Outcome.phase] at other ⊢
  exact other

omit [UnicodeData] [PasswordHasher] in
/-- The first 401 has the refresh token exchanged. -/
theorem StaysSignedIn.refreshes (stays : StaysSignedIn settings user world) {id : CallId}
    {config : RequestConfig Token} (found : world.client.calls id = some ⟨config, .sent⟩)
    (first : config.retry = false) :
    ∃ token, world.client.storage.refreshToken = some token ∧
      respond world.client id config (.error (some 401)) =
        { world.client.place id ⟨{ config with retry := true }, .refreshing token⟩ with
          requests := world.client.requests ++ [.refresh id token] } ∧
      StaysSignedIn settings user
        ⟨respond world.client id config (.error (some 401)), world.server⟩ := by
  rcases stays.refresh with ⟨token, stored, isRefresh⟩
  have other : ¬ isAuthRoute config.url := (stays.calls id _ found).1
  have asks : respond world.client id config (.error (some 401)) =
      { world.client.place id ⟨{ config with retry := true }, .refreshing token⟩ with
        requests := world.client.requests ++ [.refresh id token] } := by
    simp [respond, first, other, stored]
  refine ⟨token, stored, asks, ?_⟩
  rw [asks]
  exact stays.place id ⟨other, isRefresh⟩ stays.access stays.refresh

/-- An exchange in time has the call made again, with the tokens of a new pair. -/
theorem StaysSignedIn.exchanges (stays : StaysSignedIn settings user world) {id : CallId}
    {config : RequestConfig Token} {token : Token}
    (found : world.client.calls id = some ⟨config, .refreshing token⟩) {now : Instant}
    (inTime : InTime token now) :
    exchange settings world id token now =
        ⟨refreshed world.client id config (.ok (issueTokens settings user.id.str now)),
          Accounts.step settings world.server (.refresh token now)⟩ ∧
      StaysSignedIn settings user (exchange settings world id token now) := by
  have ofUser := stays.calls id _ found
  have same : exchange settings world id token now =
      ⟨refreshed world.client id config (.ok (issueTokens settings user.id.str now)),
        Accounts.step settings world.server (.refresh token now)⟩ := by
    simp [exchange, exchange_refresh ofUser.2 inTime, clientStep, found]
  refine ⟨same, ?_⟩
  rw [same]
  let pair : TokenPair Token := issueTokens settings user.id.str now
  have again : CallOf settings user
      ⟨{ config with authorization := some pair.accessToken }, .prepared⟩ :=
    ⟨ofUser.1, trivial⟩
  exact (stays.serverStep (.refresh token now)).place id again ⟨_, rfl, now, rfl⟩
    ⟨_, rfl, now, rfl⟩

omit [UnicodeData] [PasswordHasher] in
/-- The access token that is stored goes out with every request. -/
theorem StaysSignedIn.sends (stays : StaysSignedIn settings user world) {id : CallId}
    {config : RequestConfig Token} (found : world.client.calls id = some ⟨config, .prepared⟩) :
    StaysSignedIn settings user ⟨send world.client id config, world.server⟩ := by
  rcases stays.access with ⟨token, stored, isAccess⟩
  have bears : (onRequest world.client.storage config).authorization = some token := by
    simp [onRequest, stored]
  apply stays.place id ?_ stays.access stays.refresh
  refine ⟨?_, token, bears, isAccess⟩
  simpa using (stays.calls id _ found).1

theorem StaysSignedIn.step (active : user.isActive) {action : WorldAction Token}
    (stays : StaysSignedIn settings user world) (prompt : Prompt world action) :
    StaysSignedIn settings user (worldStep settings world action) := by
  cases action with
  | call id url =>
      simp only [worldStep, clientStep]
      split
      · exact stays.place id ⟨prompt, trivial⟩ stays.access stays.refresh
      · exact stays
  | send id =>
      simp only [worldStep, clientStep]
      split
      · exact stays.sends ‹_›
      · exact stays
  | serve id now outcome =>
      simp only [worldStep]
      split
      · rename_i config found
        rcases (stays.calls id _ found).2 with ⟨token, bears, isAccess⟩
        change config.authorization = some token at bears
        simp only [clientStep, found, bears]
        by_cases inTime : InTime token now
        · rw [serve_inTime stays.unique stays.stored active isAccess inTime]
          exact (stays.ends found prompt.1).2
        · rw [serve_expired stays.unique stays.stored isAccess inTime]
          have first : config.retry = false := by
            by_contra again
            exact inTime (prompt.2 _ found (by simpa using again) token bears)
          rcases stays.refreshes found first with ⟨_, -, -, signedIn⟩
          exact signedIn
      · exact stays
  | exchange id now =>
      simp only [worldStep]
      split
      · rename_i config token found
        exact (stays.exchanges found (prompt _ found token rfl)).2
      · exact stays
  | lose id =>
      simp only [worldStep]
      split
      · rename_i config found
        have other : Outcome.error none ≠ .error (some 401) := by simp
        simpa [clientStep, found] using (stays.ends found other).2
      · rename_i config token found
        cases prompt _ found
      · exact stays
  | cookieExpires => exact ⟨stays.stored, stays.unique, stays.access, stays.refresh, stays.calls⟩
  | others action => exact stays.serverStep action

end Steps

/-- A call that was answered with 401 is refreshed, made again and answered. -/
theorem StaysSignedIn.completes (active : user.isActive) (stays : StaysSignedIn settings user world)
    {id : CallId} {config : RequestConfig Token}
    (found : world.client.calls id = some ⟨config, .sent⟩) (first : config.retry = false)
    {token : Token} (bears : config.authorization = some token) {now exchanged later : Instant}
    (expired : ¬ InTime token now)
    (refreshable : ∀ refreshToken, world.client.storage.refreshToken = some refreshToken →
      InTime refreshToken exchanged)
    (soon : timestamp (later : ℕ) ≤ expiry settings.jwtAccessTokenExpireMinutes exchanged)
    (early outcome : Outcome) (other : outcome ≠ .error (some 401)) :
    ∃ last, (run (worldStep settings) world [.serve id now early, .exchange id exchanged, .send id,
      .serve id later outcome]).client.calls id = some ⟨last, outcome.phase⟩ := by
  have isAccess : IsAccess settings user token := by
    rcases (stays.calls id _ found).2 with ⟨other, same, isAccess⟩
    rw [bears, Option.some.injEq] at same
    exact same ▸ isAccess
  rcases stays.refreshes found first with ⟨refreshToken, isStored, asks, asked⟩
  have refused : worldStep settings world (.serve id now early) =
      ⟨respond world.client id config (.error (some 401)), world.server⟩ := by
    rw [worldStep_serve found, bears, serve_expired stays.unique stays.stored isAccess expired]
  have found₁ : (respond world.client id config (.error (some 401))).calls id =
      some ⟨{ config with retry := true }, .refreshing refreshToken⟩ := by
    simp [asks, Client.place]
  rcases asked.exchanges found₁ (refreshable refreshToken isStored) with ⟨renews, renewed⟩
  simp only [run_cons, run_nil]
  rw [refused, worldStep_exchange found₁]
  generalize exchange settings _ id refreshToken exchanged = after at renews renewed
  have access : after.client.storage.accessToken =
      some (createAccessToken settings user.id.str exchanged) := by
    simp [renews, refreshed, setAuthTokens, issueTokens]
  have repeated : ∃ again, after.client.calls id = some ⟨again, .prepared⟩ := by
    rw [renews]
    exact ⟨_, update_self id _ _⟩
  rcases repeated with ⟨again, found₂⟩
  have sent := renewed.sends found₂
  have found₃ : (send after.client id again).calls id =
      some ⟨onRequest after.client.storage again, .sent⟩ := by
    simp [send, Client.place]
  have carries : (onRequest after.client.storage again).authorization =
      some (createAccessToken settings user.id.str exchanged) := by
    simp [onRequest, access]
  have inTime : InTime (createAccessToken settings user.id.str exchanged : Token) later :=
    inTime_createToken.mpr soon
  rw [worldStep_send found₂, worldStep_serve found₃, carries,
    serve_inTime sent.unique sent.stored active ⟨exchanged, rfl⟩ inTime]
  refine ⟨onRequest after.client.storage again, ?_⟩
  rw [(sent.ends found₃ other).1]
  simp [Client.place]

end Worlds

section Samples

local instance pageJwt : Jwt Accounts.Claims := Accounts.sampleJwt

local instance pagePasswords : PasswordHasher := Accounts.samplePasswords

local instance pageUnicode : UnicodeData := .ascii

end Samples

end ImigrAI.Frontend
