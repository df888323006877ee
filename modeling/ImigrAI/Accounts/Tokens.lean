import ImigrAI.Foundations.Fallible
import ImigrAI.Python.UuidText
import ImigrAI.Security.RlsContext

/-!
# Tokens

Access and refresh tokens, and the user that a request presents one for. Signing and verifying
are the library's, as is the hashing of passwords.
-/

namespace ImigrAI.Accounts

open Python
open Security (UserRole)

structure User where
  id : UUID
  email : String
  passwordHash : String
  role : UserRole
  isActive : Bool
deriving DecidableEq

/-- The configuration, with the lifetimes in minutes. -/
structure Settings where
  adminEmails : List String
  jwtAccessTokenExpireMinutes : ℤ
  jwtRefreshTokenExpireMinutes : ℤ

/-- What a token says. A claim that is missing or no text is `none`. -/
structure Claims where
  sub : Option String
  type : Option String
  iat : ℤ
  exp : ℤ
deriving DecidableEq

/-- `jwt.encode` under the configured key, and what `jwt.decode` reads in a token with a good
signature before it looks at the clock. -/
class Jwt (Token : Type) where
  encode : Claims → Token
  verify : Token → Option Claims
  verify_encode : ∀ claims, verify (encode claims) = some claims

inductive AuthError where
  | http (statusCode : ℕ) (detail : String)
  | valueError
  | integrityError
deriving DecidableEq

/-- The reading of a clock in seconds of Unix time, without its fraction. -/
def timestamp (microseconds : ℤ) : ℤ := (microseconds - unixEpoch * 1000000).tdiv 1000000

section Tokens

variable {Token : Type} [Jwt Token]

/-- The instant at which a token of so many minutes expires. -/
def expiry (minutes : ℤ) (now : Instant) : ℤ :=
  timestamp ((now : ℕ) + minutes * 60000000)

def createToken (subject tokenType : String) (minutes : ℤ) (now : Instant) : Token :=
  Jwt.encode ⟨some subject, some tokenType, timestamp (now : ℕ), expiry minutes now⟩

def createAccessToken (settings : Settings) (subject : String) (now : Instant) : Token :=
  createToken subject "access" settings.jwtAccessTokenExpireMinutes now

def createRefreshToken (settings : Settings) (subject : String) (now : Instant) : Token :=
  createToken subject "refresh" settings.jwtRefreshTokenExpireMinutes now

/-- `jwt.decode`, which takes a token up to the second in which it expires. -/
def jwtDecode (token : Token) (now : Instant) : Option Claims := do
  let claims ← Jwt.verify token
  if claims.exp < timestamp (now : ℕ) then none else some claims

/-- The subject of the payload that `decode_token` returns. -/
def decodeToken (token : Token) (expectedType : String) (now : Instant) :
    Except AuthError String :=
  match jwtDecode token now with
  | none => .error (.http 401 "Could not validate credentials")
  | some claims =>
      if claims.type ≠ some expectedType then .error (.http 401 "Invalid token type")
      else
        match claims.sub with
        | none => .error (.http 401 "Token subject is missing")
        | some subject =>
            if subject = "" then .error (.http 401 "Token subject is missing") else .ok subject

/-- A token that `decode_token` accepts is signed, in time, of the type and about someone. -/
def Accepts (token : Token) (tokenType subject : String) (now : Instant) : Prop :=
  ∃ claims, Jwt.verify token = some claims ∧ timestamp (now : ℕ) ≤ claims.exp ∧
    claims.type = some tokenType ∧ claims.sub = some subject

theorem decodeToken_eq_ok_iff {token : Token} {tokenType subject : String} {now : Instant} :
    decodeToken token tokenType now = .ok subject ↔
      subject ≠ "" ∧ Accepts token tokenType subject now := by
  rw [decodeToken, jwtDecode, Accepts]
  cases verified : Jwt.verify token with
  | none => simp
  | some claims =>
      by_cases expired : claims.exp < timestamp (now : ℕ)
      · have late : ¬ timestamp (now : ℕ) ≤ claims.exp := by omega
        simp [expired, late]
      · have inTime : timestamp (now : ℕ) ≤ claims.exp := by omega
        by_cases typed : claims.type = some tokenType
        · cases about : claims.sub with
          | none => simp [expired, typed, about]
          | some text =>
              by_cases empty : text = ""
              · apply iff_of_false
                · simp [expired, typed, about, empty]
                · rintro ⟨nonempty, other, isClaims, -, -, isSubject⟩
                  cases isClaims
                  rw [about, Option.some.injEq] at isSubject
                  exact nonempty (isSubject ▸ empty)
              · simp only [bind, Option.bind, expired, typed, about, inTime, empty, if_false,
                  ne_eq, not_true_eq_false, Except.ok.injEq, Option.some.injEq, true_and,
                  exists_eq_left']
                constructor
                · rintro rfl
                  exact ⟨empty, rfl⟩
                · exact And.right
        · simp [expired, typed]

/-- A token that was created is accepted by those who expect its type, until it expires. -/
theorem accepts_createToken {subject tokenType expected other : String} {minutes : ℤ}
    {created now : Instant} :
    Accepts (createToken subject tokenType minutes created : Token) expected other now ↔
      timestamp (now : ℕ) ≤ expiry minutes created ∧ expected = tokenType ∧ other = subject := by
  simp [Accepts, createToken, Jwt.verify_encode, eq_comm]

variable [UnicodeData]

/-- `get_current_user`, with the credentials of the request. -/
def getCurrentUser (users : List User) (credentials : Option Token) (now : Instant) :
    Except AuthError User :=
  match credentials with
  | none => .error (.http 401 "Authentication required")
  | some token => do
      let subject ← decodeToken token "access" now
      let userId ← (uuidOfText subject).mapError fun _ => .valueError
      match users.find? fun user => user.id = userId with
      | none => .error (.http 401 "User not found")
      | some user =>
          if user.isActive then .ok user else .error (.http 403 "User is inactive")

/-- `get_optional_current_user`, which raises only for a subject that is no UUID. -/
def getOptionalCurrentUser (users : List User) (credentials : Option Token) (now : Instant) :
    Except AuthError (Option User) :=
  match credentials with
  | none => .ok none
  | some token =>
      match decodeToken token "access" now with
      | .error _ => .ok none
      | .ok subject => do
          let userId ← (uuidOfText subject).mapError fun _ => .valueError
          .ok (users.find? fun user => user.id = userId)

/-- The users of both are the same but for inactive ones, whom the optional one lets through. -/
theorem getCurrentUser_eq_ok_iff {users : List User} {credentials : Option Token} {now : Instant}
    {user : User} :
    getCurrentUser users credentials now = .ok user ↔
      getOptionalCurrentUser users credentials now = .ok (some user) ∧ user.isActive := by
  cases credentials with
  | none => simp [getCurrentUser, getOptionalCurrentUser]
  | some token =>
      simp only [getCurrentUser, getOptionalCurrentUser]
      cases decodeToken token "access" now with
      | error error => simp
      | ok subject =>
          cases readId : (uuidOfText subject).mapError fun _ => AuthError.valueError with
          | error error => simp [readId]
          | ok userId =>
              cases found : users.find? fun stored => stored.id = userId with
              | none => simp [readId, found]
              | some stored =>
                  simp only [readId, found, Fallible.ok_bind, Except.ok.injEq, Option.some.injEq]
                  split_ifs with active
                  · constructor
                    · rintro ⟨⟩
                      exact ⟨rfl, active⟩
                    · rintro ⟨rfl, -⟩
                      rfl
                  · constructor
                    · intro refused
                      cases refused
                    · rintro ⟨rfl, isActive⟩
                      exact absurd isActive active

end Tokens

end ImigrAI.Accounts
