import ImigrAI.Accounts.Auth

/-!
# Calls of the API client

The interceptors of the axios client over the tokens that the browser keeps. Any number of calls
are under way at once, and each of them reads and writes the same storage: a call that is
answered with 401 exchanges the refresh token and is made again.
-/

namespace ImigrAI.Frontend

open Runs Function
open Accounts (TokenPair)

abbrev CallId := ℕ

/-- What the browser keeps. No token is the empty text. -/
structure Storage (Token : Type) where
  accessToken : Option Token
  refreshToken : Option Token
  accessCookie : Option Token
deriving DecidableEq

/-- The configuration of a request, with the mark of one that is repeated. -/
structure RequestConfig (Token : Type) where
  url : String
  authorization : Option Token
  retry : Bool
deriving DecidableEq

/-- The answer to a request: an error has the status of the response, if there was one. -/
inductive Outcome where
  | ok
  | error (status : Option ℕ)
  /-- An error without the configuration of a request. -/
  | thrown
deriving DecidableEq

inductive Phase (Token : Type) where
  | prepared
  | sent
  /-- The token is being exchanged at `/auth/refresh`. -/
  | refreshing (refreshToken : Token)
  | resolved
  | rejected (status : Option ℕ)
deriving DecidableEq

structure Call (Token : Type) where
  config : RequestConfig Token
  phase : Phase Token
deriving DecidableEq

/-- A request that has left the browser. -/
inductive Request (Token : Type) where
  | api (id : CallId) (authorization : Option Token)
  | refresh (id : CallId) (refreshToken : Token)
deriving DecidableEq

/-- The storage, the calls, the requests so far and the pairs of tokens that came in. -/
structure Client (Token : Type) where
  storage : Storage Token
  calls : CallId → Option (Call Token)
  requests : List (Request Token)
  received : List (TokenPair Token)

inductive ClientAction (Token : Type) where
  | call (id : CallId) (url : String)
  | send (id : CallId)
  | respond (id : CallId) (outcome : Outcome)
  | refreshed (id : CallId) (result : Except (Option ℕ) (TokenPair Token))
  /-- A login or a registration has been answered. -/
  | signIn (pair : TokenPair Token)
  /-- A logout, or a profile that could not be read. -/
  | logout
  | cookieExpires

section Interceptors

variable {Token : Type}

def setAuthTokens (pair : TokenPair Token) : Storage Token :=
  ⟨some pair.accessToken, some pair.refreshToken, some pair.accessToken⟩

def clearAuthTokens : Storage Token := ⟨none, none, none⟩

def isAuthRoute (url : String) : Prop :=
  "/auth/login".toList <:+: url.toList ∨ "/auth/register".toList <:+: url.toList ∨
    "/auth/refresh".toList <:+: url.toList

instance (url : String) : Decidable (isAuthRoute url) :=
  inferInstanceAs (Decidable (_ ∨ _))

/-- The request interceptor. -/
def onRequest (storage : Storage Token) (config : RequestConfig Token) : RequestConfig Token :=
  match storage.accessToken with
  | some token => { config with authorization := some token }
  | none => config

def Client.place (client : Client Token) (id : CallId) (call : Call Token) : Client Token :=
  { client with calls := update client.calls id (some call) }

def send (client : Client Token) (id : CallId) (config : RequestConfig Token) : Client Token :=
  { client.place id ⟨onRequest client.storage config, .sent⟩ with
    requests := client.requests ++ [.api id (onRequest client.storage config).authorization] }

/-- The response interceptor, up to the request for new tokens. -/
def respond (client : Client Token) (id : CallId) (config : RequestConfig Token) :
    Outcome → Client Token
  | .ok => client.place id ⟨config, .resolved⟩
  | .thrown => client.place id ⟨config, .rejected none⟩
  | .error status =>
      if status ≠ some 401 ∨ config.retry ∨ isAuthRoute config.url then
        client.place id ⟨config, .rejected status⟩
      else
        match client.storage.refreshToken with
        | none =>
            { client.place id ⟨config, .rejected status⟩ with storage := clearAuthTokens }
        | some token =>
            { client.place id ⟨{ config with retry := true }, .refreshing token⟩ with
              requests := client.requests ++ [.refresh id token] }

/-- The response interceptor from the answer to that request on. -/
def refreshed (client : Client Token) (id : CallId) (config : RequestConfig Token) :
    Except (Option ℕ) (TokenPair Token) → Client Token
  | .ok pair =>
      { client.place id ⟨{ config with authorization := some pair.accessToken }, .prepared⟩ with
        storage := setAuthTokens pair
        received := client.received ++ [pair] }
  | .error status =>
      { client.place id ⟨config, .rejected status⟩ with storage := clearAuthTokens }

/-- A step of the browser. What does not concern a call in its phase does nothing. -/
def clientStep (client : Client Token) : ClientAction Token → Client Token
  | .call id url =>
      match client.calls id with
      | none => client.place id ⟨⟨url, none, false⟩, .prepared⟩
      | some _ => client
  | .send id =>
      match client.calls id with
      | some ⟨config, .prepared⟩ => send client id config
      | _ => client
  | .respond id outcome =>
      match client.calls id with
      | some ⟨config, .sent⟩ => respond client id config outcome
      | _ => client
  | .refreshed id result =>
      match client.calls id with
      | some ⟨config, .refreshing _⟩ => refreshed client id config result
      | _ => client
  | .signIn pair =>
      { client with
        storage := setAuthTokens pair
        received := client.received ++ [pair] }
  | .logout => { client with storage := clearAuthTokens }
  | .cookieExpires => { client with storage := { client.storage with accessCookie := none } }

/-- A page that is opened, with the tokens that an earlier one has left. -/
def openPage (stored : Option (TokenPair Token)) : Client Token where
  storage := stored.elim clearAuthTokens setAuthTokens
  calls := fun _ => none
  requests := []
  received := stored.toList

/-- The answers after which a request is not repeated, whatever is stored. -/
def Final (config : RequestConfig Token) : Outcome → Prop
  | .ok | .thrown => True
  | .error status => status ≠ some 401 ∨ config.retry ∨ isAuthRoute config.url

def Outcome.phase : Outcome → Phase Token
  | .ok => .resolved
  | .thrown => .rejected none
  | .error status => .rejected status

inductive Effect (client : Client Token) : Client Token → Prop
  | idle : Effect client client
  | prepares {id : CallId} {url : String} (fresh : client.calls id = none) :
      Effect client (client.place id ⟨⟨url, none, false⟩, .prepared⟩)
  | sends {id : CallId} {config : RequestConfig Token}
      (found : client.calls id = some ⟨config, .prepared⟩) :
      Effect client (send client id config)
  | settles {id : CallId} {config : RequestConfig Token} (outcome : Outcome)
      (found : client.calls id = some ⟨config, .sent⟩) (final : Final config outcome) :
      Effect client (client.place id ⟨config, outcome.phase⟩)
  | signsOut {id : CallId} {config : RequestConfig Token} {status : Option ℕ}
      (found : client.calls id = some ⟨config, .sent⟩ ∨
        ∃ token, client.calls id = some ⟨config, .refreshing token⟩) :
      Effect client
        { client.place id ⟨config, .rejected status⟩ with storage := clearAuthTokens }
  | refreshes {id : CallId} {config : RequestConfig Token} {token : Token}
      (found : client.calls id = some ⟨config, .sent⟩) (first : config.retry = false)
      (other : ¬ isAuthRoute config.url) (stored : client.storage.refreshToken = some token) :
      Effect client
        { client.place id ⟨{ config with retry := true }, .refreshing token⟩ with
          requests := client.requests ++ [.refresh id token] }
  | repeats {id : CallId} {config : RequestConfig Token} {token : Token} {pair : TokenPair Token}
      (found : client.calls id = some ⟨config, .refreshing token⟩) :
      Effect client (refreshed client id config (.ok pair))
  | signsIn {pair : TokenPair Token} :
      Effect client
        { client with
          storage := setAuthTokens pair
          received := client.received ++ [pair] }
  | forgets {storage : Storage Token} (less : storage = clearAuthTokens ∨
      storage = { client.storage with accessCookie := none }) :
      Effect client { client with storage := storage }

theorem effect_respond {client : Client Token} {id : CallId} {config : RequestConfig Token}
    (found : client.calls id = some ⟨config, .sent⟩) (outcome : Outcome) :
    Effect client (respond client id config outcome) := by
  cases outcome with
  | ok => exact .settles .ok found trivial
  | thrown => exact .settles .thrown found trivial
  | error status =>
      simp only [respond]
      split_ifs with final
      · exact .settles (.error status) found final
      · rw [not_or, not_or] at final
        split
        · exact .signsOut (.inl found)
        · rename_i token stored
          exact .refreshes found (by simpa using final.2.1) final.2.2 stored

theorem effect_clientStep (client : Client Token) (action : ClientAction Token) :
    Effect client (clientStep client action) := by
  cases action with
  | call id url =>
      cases found : client.calls id with
      | none => simpa [clientStep, found] using Effect.prepares found
      | some call => simpa [clientStep, found] using Effect.idle
  | send id =>
      simp only [clientStep]
      split
      · exact .sends ‹_›
      · exact .idle
  | respond id outcome =>
      simp only [clientStep]
      split
      · exact effect_respond ‹_› outcome
      · exact .idle
  | refreshed id result =>
      simp only [clientStep]
      split
      · rename_i config token found
        cases result with
        | ok pair => exact .repeats found
        | error status => exact .signsOut (.inr ⟨token, found⟩)
      · exact .idle
  | signIn pair => exact .signsIn
  | logout => exact .forgets (.inl rfl)
  | cookieExpires => exact .forgets (.inr rfl)

/-- The storage holds a pair that came in, or nothing. The cookie may be gone. -/
def Kept (received : List (TokenPair Token)) (storage : Storage Token) : Prop :=
  (storage.accessCookie = none ∨ storage.accessCookie = storage.accessToken) ∧
    ((storage.accessToken = none ∧ storage.refreshToken = none) ∨
      ∃ pair ∈ received, storage.accessToken = some pair.accessToken ∧
        storage.refreshToken = some pair.refreshToken)

/-- What goes out as a bearer token came in as an access token. -/
def Bears (received : List (TokenPair Token)) (authorization : Option Token) : Prop :=
  ∀ token ∈ authorization, ∃ pair ∈ received, pair.accessToken = token

def Exchanges (received : List (TokenPair Token)) (refreshToken : Token) : Prop :=
  ∃ pair ∈ received, pair.refreshToken = refreshToken

def Request.Genuine (received : List (TokenPair Token)) : Request Token → Prop
  | .api _ authorization => Bears received authorization
  | .refresh _ refreshToken => Exchanges received refreshToken

def Call.Genuine (received : List (TokenPair Token)) (call : Call Token) : Prop :=
  Bears received call.config.authorization ∧
    ∀ token, call.phase = .refreshing token → Exchanges received token

structure Sourced (client : Client Token) : Prop where
  storage : Kept client.received client.storage
  calls : ∀ id call, client.calls id = some call → call.Genuine client.received
  requests : ∀ request ∈ client.requests, request.Genuine client.received

section Sources

variable {received : List (TokenPair Token)} {storage : Storage Token}

theorem kept_setAuthTokens {pair : TokenPair Token} (mem : pair ∈ received) :
    Kept received (setAuthTokens pair) :=
  ⟨.inr rfl, .inr ⟨pair, mem, rfl, rfl⟩⟩

theorem kept_clearAuthTokens : Kept received clearAuthTokens := ⟨.inl rfl, .inl ⟨rfl, rfl⟩⟩

theorem Kept.exchanges (kept : Kept received storage) {token : Token}
    (stored : storage.refreshToken = some token) : Exchanges received token := by
  rcases kept.2 with empty | ⟨pair, mem, -, same⟩
  · simp [empty.2] at stored
  · refine ⟨pair, mem, ?_⟩
    simpa [stored, eq_comm] using same

theorem Kept.bears_onRequest (kept : Kept received storage) {config : RequestConfig Token}
    (bears : Bears received config.authorization) :
    Bears received (onRequest storage config).authorization := by
  rcases kept.2 with empty | ⟨pair, mem, same, -⟩
  · simpa [onRequest, empty.1] using bears
  · simp only [onRequest, same, Bears, Option.mem_some_iff]
    rintro token rfl
    exact ⟨pair, mem, rfl⟩

theorem Sourced.grow {client : Client Token} (sourced : Sourced client) (pair : TokenPair Token) :
    Sourced { client with
      storage := setAuthTokens pair
      received := client.received ++ [pair] } := by
  have more : ∀ {other}, other ∈ client.received → other ∈ client.received ++ [pair] := by
    intro other mem
    exact List.mem_append_left _ mem
  have bears : ∀ {authorization}, Bears client.received authorization →
      Bears (client.received ++ [pair]) authorization := by
    intro authorization bears token isToken
    rcases bears token isToken with ⟨other, mem, same⟩
    exact ⟨other, more mem, same⟩
  have exchanges : ∀ {token}, Exchanges client.received token →
      Exchanges (client.received ++ [pair]) token := by
    rintro token ⟨other, mem, same⟩
    exact ⟨other, more mem, same⟩
  refine ⟨kept_setAuthTokens (by simp), ?_, ?_⟩
  · intro id call found
    rcases sourced.calls id call found with ⟨bearer, refresh⟩
    exact ⟨bears bearer, fun token phase => exchanges (refresh token phase)⟩
  · intro request mem
    cases request with
    | api id authorization => exact bears (sourced.requests _ mem)
    | refresh id token => exact exchanges (sourced.requests _ mem)

theorem Sourced.place {client : Client Token} (sourced : Sourced client) (id : CallId)
    {call : Call Token} (genuine : call.Genuine client.received) : Sourced (client.place id call) := by
  refine ⟨sourced.storage, ?_, sourced.requests⟩
  intro other found placed
  by_cases same : other = id
  · subst same
    simp only [Client.place, update_self, Option.some.injEq] at placed
    exact placed ▸ genuine
  · simp only [Client.place, update_of_ne same] at placed
    exact sourced.calls other found placed

theorem Sourced.store {client : Client Token} (sourced : Sourced client)
    (kept : Kept client.received storage) : Sourced { client with storage := storage } :=
  ⟨kept, sourced.calls, sourced.requests⟩

theorem Sourced.request {client : Client Token} (sourced : Sourced client) (request : Request Token)
    (genuine : request.Genuine client.received) :
    Sourced { client with requests := client.requests ++ [request] } := by
  refine ⟨sourced.storage, sourced.calls, ?_⟩
  rw [List.forall_mem_append]
  exact ⟨sourced.requests, by simpa using genuine⟩

end Sources

theorem Outcome.phase_ne_refreshing (outcome : Outcome) (token : Token) :
    outcome.phase ≠ .refreshing token := by
  cases outcome <;> simp [Outcome.phase]

theorem Sourced.step {client after : Client Token} (sourced : Sourced client)
    (effect : Effect client after) : Sourced after := by
  cases effect with
  | idle => exact sourced
  | prepares fresh =>
      apply sourced.place
      simp [Call.Genuine, Bears]
  | @sends id config found =>
      have bears := sourced.storage.bears_onRequest (sourced.calls id _ found).1
      exact (sourced.place id ⟨bears, by simp⟩).request (.api id _) bears
  | @settles id config outcome found =>
      apply sourced.place
      refine ⟨(sourced.calls id _ found).1, ?_⟩
      intro token isPhase
      exact absurd isPhase (outcome.phase_ne_refreshing token)
  | @signsOut id config status found =>
      have bears : Bears client.received config.authorization := by
        rcases found with found | ⟨token, found⟩
        · exact (sourced.calls id _ found).1
        · exact (sourced.calls id _ found).1
      exact (sourced.place id ⟨bears, by simp⟩).store kept_clearAuthTokens
  | @refreshes id config token found _ _ stored =>
      have exchanges := sourced.storage.exchanges stored
      have genuine : Call.Genuine client.received
          ⟨{ config with retry := true }, .refreshing token⟩ := by
        refine ⟨(sourced.calls id _ found).1, ?_⟩
        rintro other ⟨⟩
        exact exchanges
      exact (sourced.place id genuine).request (.refresh id token) exchanges
  | @repeats id config token pair found =>
      apply (sourced.grow pair).place
      simp [Call.Genuine, Bears]
  | signsIn => exact sourced.grow _
  | forgets less =>
      apply sourced.store
      rcases less with rfl | rfl
      · exact kept_clearAuthTokens
      · exact ⟨.inl rfl, sourced.storage.2⟩

def Request.isSend (id : CallId) : Request Token → Bool
  | .api other _ => other = id
  | .refresh _ _ => false

def Request.isRefresh (id : CallId) : Request Token → Bool
  | .api _ _ => false
  | .refresh other _ => other = id

def sends (client : Client Token) (id : CallId) : ℕ := client.requests.countP (Request.isSend id)

def refreshes (client : Client Token) (id : CallId) : ℕ :=
  client.requests.countP (Request.isRefresh id)

/-- The requests of a call in its phase. -/
def Accounted (sends refreshes : ℕ) : Option (Call Token) → Prop
  | none => sends = 0 ∧ refreshes = 0
  | some ⟨config, phase⟩ =>
      refreshes = config.retry.toNat ∧ (isAuthRoute config.url → config.retry = false) ∧
        match phase with
        | .prepared => sends = config.retry.toNat
        | .sent => sends = config.retry.toNat + 1
        | .refreshing _ => sends = 1 ∧ config.retry = true
        | .resolved | .rejected _ => sends ≤ config.retry.toNat + 1

def Counted (client : Client Token) : Prop :=
  ∀ id, Accounted (sends client id) (refreshes client id) (client.calls id)

section Counts

variable {client : Client Token}

@[simp]
theorem onRequest_retry (storage : Storage Token) (config : RequestConfig Token) :
    (onRequest storage config).retry = config.retry := by
  unfold onRequest
  split <;> rfl

@[simp]
theorem onRequest_url (storage : Storage Token) (config : RequestConfig Token) :
    (onRequest storage config).url = config.url := by
  unfold onRequest
  split <;> rfl

/-- A step puts one call into its phase, with the requests that it makes for it. -/
theorem Counted.place (counted : Counted client) {id : CallId} {call : Call Token}
    {after : Client Token} (made : List (Request Token))
    (calls : after.calls = update client.calls id (some call))
    (requests : after.requests = client.requests ++ made)
    (own : ∀ other ≠ id, made.countP (Request.isSend other) = 0 ∧
      made.countP (Request.isRefresh other) = 0)
    (accounted : Accounted (sends client id + made.countP (Request.isSend id))
      (refreshes client id + made.countP (Request.isRefresh id)) (some call)) : Counted after := by
  intro other
  simp only [sends, refreshes, calls, requests, List.countP_append]
  by_cases same : other = id
  · subst same
    simpa [sends, refreshes] using accounted
  · simp only [own other same, update_of_ne same, Nat.add_zero]
    exact counted other

theorem Counted.step {after : Client Token} (counted : Counted client)
    (effect : Effect client after) : Counted after := by
  cases effect with
  | idle => exact counted
  | @prepares id url fresh =>
      have before := counted id
      rw [fresh] at before
      refine counted.place [] rfl (by simp [Client.place]) (by simp) ?_
      simpa [Accounted, and_comm] using before
  | @sends id config found =>
      have before := counted id
      rw [found] at before
      refine counted.place [.api id _] rfl rfl ?_ ?_
      · intro other ne
        simp [Request.isSend, Request.isRefresh, Ne.symm ne]
      · simpa [Accounted, Request.isSend, Request.isRefresh] using before
  | @settles id config outcome found =>
      have before := counted id
      rw [found] at before
      refine counted.place [] rfl (by simp [Client.place]) (by simp) ?_
      cases outcome <;> simpa [Accounted, Outcome.phase] using ⟨before.1, before.2.1, before.2.2.le⟩
  | @signsOut id config status found =>
      have before := counted id
      refine counted.place [] rfl (by simp [Client.place]) (by simp) ?_
      rcases found with found | ⟨token, found⟩
      · rw [found] at before
        simpa [Accounted] using ⟨before.1, before.2.1, before.2.2.le⟩
      · rw [found] at before
        rcases before with ⟨isRefreshes, other, once, repeated⟩
        rw [repeated] at isRefreshes
        refine ⟨by simp [isRefreshes, repeated], other, ?_⟩
        simp [once, repeated]
  | @refreshes id config token found first other stored =>
      have before := counted id
      rw [found] at before
      rcases before with ⟨none, -, once⟩
      refine counted.place [.refresh id token] rfl rfl ?_ ?_
      · intro second ne
        simp [Request.isSend, Request.isRefresh, Ne.symm ne]
      · simp [Accounted, Request.isSend, Request.isRefresh, none, once, first, other]
  | @repeats id config token pair found =>
      have before := counted id
      rw [found] at before
      rcases before with ⟨isRefreshes, other, once, repeated⟩
      refine counted.place [] rfl (by simp [refreshed, Client.place]) (by simp) ?_
      simp [Accounted, isRefreshes, once, repeated]
      simpa [repeated] using other
  | signsIn => exact counted
  | forgets => exact counted

end Counts

/-- What holds of calls and storage, whatever the server answers and in whichever order. -/
structure InOrder (client : Client Token) : Prop where
  kept : Kept client.received client.storage
  genuine : ∀ request ∈ client.requests, request.Genuine client.received
  sends_le : ∀ id, sends client id ≤ 2
  refreshes_le : ∀ id, refreshes client id ≤ 1
  sent_again : ∀ id, sends client id = 2 → refreshes client id = 1
  authRoutes : ∀ id call, client.calls id = some call → isAuthRoute call.config.url →
    sends client id ≤ 1 ∧ refreshes client id = 0

theorem Accounted.bounds {sends refreshes : ℕ} {call : Option (Call Token)}
    (accounted : Accounted sends refreshes call) : sends ≤ refreshes + 1 ∧ refreshes ≤ 1 := by
  cases call with
  | none =>
      rcases accounted with ⟨rfl, rfl⟩
      omega
  | some call =>
      rcases call with ⟨config, phase⟩
      rcases accounted with ⟨rfl, -, spent⟩
      have retries := config.retry.toNat_le
      cases phase with
      | prepared | sent | resolved | rejected => simp only at spent; omega
      | refreshing token =>
          rw [spent.1]
          omega

theorem Accounted.authRoute {sends refreshes : ℕ} {call : Call Token}
    (accounted : Accounted sends refreshes (some call)) (auth : isAuthRoute call.config.url) :
    refreshes = 0 := by
  rw [accounted.1, accounted.2.1 auth]
  rfl

theorem inOrder {client : Client Token} (sourced : Sourced client) (counted : Counted client) :
    InOrder client := by
  refine ⟨sourced.storage, sourced.requests, ?_, ?_, ?_, ?_⟩
  · intro id
    have bounds := (counted id).bounds
    omega
  · intro id
    exact (counted id).bounds.2
  · intro id twice
    have bounds := (counted id).bounds
    omega
  · intro id call found auth
    have accounted := counted id
    rw [found] at accounted
    have bounds := accounted.bounds
    have none := accounted.authRoute auth
    omega

theorem sourced_openPage (stored : Option (TokenPair Token)) : Sourced (openPage stored) := by
  refine ⟨?_, by simp [openPage], by simp [openPage]⟩
  cases stored with
  | none => exact kept_clearAuthTokens
  | some pair => exact kept_setAuthTokens (by simp [openPage])

theorem invariants_run (stored : Option (TokenPair Token)) (actions : List (ClientAction Token)) :
    Sourced (run clientStep (openPage stored) actions) ∧
      Counted (run clientStep (openPage stored) actions) := by
  have preserved : ∀ (client : Client Token) action, Sourced client ∧ Counted client →
      Sourced (clientStep client action) ∧ Counted (clientStep client action) := by
    rintro client action ⟨sourced, counted⟩
    have effect := effect_clientStep client action
    exact ⟨sourced.step effect, counted.step effect⟩
  refine invariant_run preserved ⟨sourced_openPage stored, ?_⟩ actions
  intro id
  exact ⟨rfl, rfl⟩

theorem calls_place {client : Client Token} {id other : CallId} {call placed : Call Token}
    (found : (client.place other placed).calls id = some call) :
    (id = other ∧ placed = call) ∨ client.calls id = some call := by
  by_cases same : id = other
  · subst same
    simp only [Client.place, update_self, Option.some.injEq] at found
    exact .inl ⟨rfl, found⟩
  · simp only [Client.place, update_of_ne same] at found
    exact .inr found

/-- The step at which a call ends with 401. -/
theorem gives_up {client after : Client Token} (counted : Counted client)
    (effect : Effect client after) {id : CallId} {call : Call Token}
    (ended : after.calls id = some call) (isRejected : call.phase = .rejected (some 401))
    (before : client.calls id ≠ some call) :
    isAuthRoute call.config.url ∨ sends after id = 2 ∨ after.storage = clearAuthTokens := by
  cases effect with
  | idle | signsIn | forgets => exact absurd ended before
  | prepares | sends | refreshes | repeats =>
      rcases calls_place ended with ⟨-, rfl⟩ | earlier
      · simp at isRejected
      · exact absurd earlier before
  | signsOut => exact .inr (.inr rfl)
  | @settles other config outcome found final =>
      rcases calls_place ended with ⟨rfl, rfl⟩ | earlier
      · have accounted := counted id
        rw [found] at accounted
        cases outcome with
        | ok | thrown => simp [Outcome.phase] at isRejected
        | error status =>
            have is401 : status = some 401 := by simpa [Outcome.phase] using isRejected
            rcases final with other | again | auth
            · exact absurd is401 other
            · have sent : sends client id = config.retry.toNat + 1 := accounted.2.2
              rw [again] at sent
              exact .inr (.inl sent)
            · exact .inl auth
      · exact absurd earlier before

/-- However calls interleave and whatever the server answers, a call is sent at most twice and
exchanges the refresh token at most once, the routes that sign in are sent once, tokens are
stored and cleared as pairs, and each goes out only as what it came in as. A call ends with 401
only on a route that signs in, after it was made again, or with the tokens given up. -/
theorem calls_in_order (stored : Option (TokenPair Token)) (actions : List (ClientAction Token)) :
    InOrder (run clientStep (openPage stored) actions) ∧
    ∀ action id call,
      (run clientStep (openPage stored) (actions ++ [action])).calls id = some call →
      call.phase = .rejected (some 401) →
      (run clientStep (openPage stored) actions).calls id ≠ some call →
      isAuthRoute call.config.url ∨
        sends (run clientStep (openPage stored) (actions ++ [action])) id = 2 ∨
        (run clientStep (openPage stored) (actions ++ [action])).storage = clearAuthTokens := by
  rcases invariants_run stored actions with ⟨sourced, counted⟩
  refine ⟨inOrder sourced counted, ?_⟩
  intro action id call
  simp only [run_append, run_cons, run_nil]
  exact gives_up counted (effect_clientStep _ action)

example : sends (run clientStep (openPage (some ⟨"a1", "r1"⟩))
    [.call 1 "/profile", .send 1, .respond 1 (.error (some 401)), .refreshed 1 (.ok ⟨"a2", "r2"⟩),
      .send 1, .respond 1 .ok]) 1 = 2 := by decide

end Interceptors

end ImigrAI.Frontend
