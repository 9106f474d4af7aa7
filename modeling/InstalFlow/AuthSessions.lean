import InstalFlow.Calendar
import InstalFlow.UserManagementService

/-!
# Logins and their sessions

A login stores a session with the hash of its refresh token. The guard in front of
the routes and the refresh of an access token look at the session, not at the user.
Passwords, signatures and hashes are parameters.
-/

namespace InstalFlow
open Relational

/-- What a refresh token is signed for. -/
structure RefreshClaims where
  userId : String
  role : Role
  email : String
  companyId : Option String := none

/-- What an access token is signed for. -/
structure AccessClaims extends RefreshClaims where
  sessionId : String

structure TokenService where
  bcryptCompare : String → String → Bool
  generateRefreshToken : RefreshClaims → DateTime → String
  verifyRefreshToken : String → DateTime → Except String RefreshClaims
  verifyAccessToken : String → DateTime → Except String AccessClaims
  hashRefreshToken : String → String
  /-- What verifies under the hash of a token that was signed, is signed for the same user. -/
  verify_hash : ∀ claims signedAt token now decoded,
    hashRefreshToken token = hashRefreshToken (generateRefreshToken claims signedAt) →
    verifyRefreshToken token now = .ok decoded → decoded.userId = claims.userId

structure LoginData where
  email : String
  password : String

structure LoginResult where
  accessToken : AccessClaims
  refreshToken : String

def User.claims (u : User) : RefreshClaims := ⟨u.userId, u.role, u.email, u.companyId⟩

namespace AuthService

def deactivated : AppError :=
  .unauthorized "Your account has been deactivated. Please contact support."

variable (tokens : TokenService)

def login (data : LoginData) (sessionId : String) (now : DateTime) (db : Database) :
    Except AppError (LoginResult × Database) :=
  match db.users.rows.find? (fun u => u.email = data.email) with
  | none => .error (.unauthorized "Invalid credentials")
  | some user =>
    if user.active = false then .error deactivated
    else if user.deletedAt.isSome then .error deactivated
    else if tokens.bcryptCompare data.password user.password = false then
      .error (.unauthorized "Invalid credentials")
    else
      let refreshToken := tokens.generateRefreshToken user.claims now
      let tokenHash := tokens.hashRefreshToken refreshToken
      if db.userSessions.rows.any (fun s => s.tokenHash = tokenHash) then
        .error (.uniqueViolation ["tokenHash"])
      else
        match createRow db.userSessions
            { sessionId, userId := user.userId, tokenHash, expiresAt := now.addDays 7 }
            ["sessionId"] with
        | .error err => .error err
        | .ok userSessions =>
          .ok (⟨{ user.claims with sessionId }, refreshToken⟩, { db with userSessions })

/-- Without a session id all sessions of the user are revoked. -/
def logout (sessionId : Option String) (userId : String) (db : Database) : Database :=
  match sessionId with
  | some sessionId =>
    match db.userSessions.find? sessionId with
    | none => db
    | some session =>
      if session.userId = userId then
        { db with
          userSessions := db.userSessions.update sessionId UserSession.revoke
            UserSession.revoke_sessionId }
      else db
  | none =>
    if (db.users.find? userId).isSome then UserManagementService.revokeSessions userId db else db

def refresh (refreshToken : String) (now : DateTime) (db : Database) :
    Except AppError AccessClaims :=
  match tokens.verifyRefreshToken refreshToken now with
  | .error _ => .error (.unauthorized "Invalid or expired refresh token")
  | .ok decoded =>
    match db.userSessions.rows.find?
        (fun s => s.tokenHash = tokens.hashRefreshToken refreshToken) with
    | none => .error (.unauthorized "Refresh token revoked or expired")
    | some activeSession =>
      if activeSession.revoked ∨ activeSession.expiresAt < now then
        .error (.unauthorized "Refresh token revoked or expired")
      else
        match db.users.find? decoded.userId with
        | none => .error (.unauthorized "User no longer exists")
        | some user => .ok { user.claims with sessionId := activeSession.sessionId }

end AuthService

def missingAuthorization : AppError := .unauthorized "Missing or invalid authorization header"

/-- The guard: the token verifies and its session is neither revoked nor expired. -/
def requireAuth (tokens : TokenService) (authorization : Option String) (now : DateTime)
    (db : Database) : Except AppError AccessClaims :=
  match authorization with
  | none => .error missingAuthorization
  | some authHeader =>
    if authHeader.startsWith "Bearer " = false then .error missingAuthorization
    else
      match tokens.verifyAccessToken ((authHeader.splitOn " ").getD 1 "") now with
      | .error message => .error (.unauthorized message)
      | .ok decoded =>
        match db.userSessions.find? decoded.sessionId with
        | none => .error (.unauthorized
            "Session has been revoked or expired. Please login again.")
        | some activeSession =>
          if activeSession.revoked ∨ activeSession.expiresAt < now then
            .error (.unauthorized "Session has been revoked or expired. Please login again.")
          else .ok decoded

namespace AuthService
variable {tokens : TokenService} {db db' : Database} {now : DateTime}

/-- A login adds one session, of a user who is neither suspended nor deleted. -/
theorem login_eq_ok {data : LoginData} {sessionId : String} {result : LoginResult}
    (h : login tokens data sessionId now db = .ok (result, db')) :
    ∃ user ∈ db.users.rows, user.active = true ∧ user.deletedAt = none ∧
      ∃ userSessions, db.userSessions.create
        { sessionId, userId := user.userId
          tokenHash := tokens.hashRefreshToken (tokens.generateRefreshToken user.claims now)
          expiresAt := now.addDays 7 } = some userSessions ∧
        db' = { db with userSessions } ∧ result.accessToken = { user.claims with sessionId } := by
  rw [login] at h
  split at h
  · cases h
  rename_i user hfound
  split at h
  · cases h
  rename_i hactive
  split at h
  · cases h
  rename_i hdeleted
  split at h
  · cases h
  dsimp only at h
  split at h
  · cases h
  split at h
  · cases h
  · rename_i userSessions hcreate
    cases h
    exact ⟨user, List.mem_of_find?_eq_some hfound, by simpa using hactive,
      by simpa using hdeleted, userSessions, createRow_eq_ok.mp hcreate, rfl, rfl⟩

/-- An access token is refreshed for a session that is not revoked and has the hash. -/
theorem refresh_eq_ok {refreshToken : String} {accessToken : AccessClaims}
    (h : refresh tokens refreshToken now db = .ok accessToken) :
    ∃ decoded, tokens.verifyRefreshToken refreshToken now = .ok decoded ∧
      ∃ session ∈ db.userSessions.rows, session.tokenHash = tokens.hashRefreshToken refreshToken ∧
        session.revoked = false ∧ ∃ user, db.users.find? decoded.userId = some user ∧
          accessToken = { user.claims with sessionId := session.sessionId } := by
  rw [refresh] at h
  split at h
  · cases h
  rename_i decoded hdecoded
  split at h
  · cases h
  rename_i session hsession
  split at h
  · cases h
  rename_i hlive
  split at h
  · cases h
  rename_i user huser
  cases h
  have hhash := List.find?_some hsession
  rw [decide_eq_true_eq] at hhash
  refine ⟨decoded, hdecoded, session, List.mem_of_find?_eq_some hsession, hhash, ?_, user, huser,
    rfl⟩
  by_contra hrevoked
  exact hlive (.inl (by simpa using hrevoked))

/-- The guard lets a token pass whose session is stored and not revoked. -/
theorem requireAuth_eq_ok {authorization : Option String} {decoded : AccessClaims}
    (h : requireAuth tokens authorization now db = .ok decoded) :
    ∃ session, db.userSessions.find? decoded.sessionId = some session ∧
      session.revoked = false := by
  cases authorization with
  | none => cases h
  | some authHeader =>
  rw [requireAuth] at h
  split at h
  · cases h
  split at h
  · cases h
  split at h
  · cases h
  rename_i session hsession
  split at h
  · cases h
  rename_i hlive
  cases h
  refine ⟨session, hsession, ?_⟩
  by_contra hrevoked
  exact hlive (.inl (by simpa using hrevoked))

theorem mem_logout {sessionId : Option String} {userId : String} {s : UserSession}
    (h : s ∈ (logout sessionId userId db).userSessions.rows) :
    ∃ r ∈ db.userSessions.rows, s = r ∨ s = r.revoke := by
  cases sessionId with
  | some sessionId =>
    rw [logout] at h
    split at h
    · exact ⟨s, h, .inl rfl⟩
    · split at h
      · have hrow : s ∈ (db.userSessions.update sessionId UserSession.revoke
          UserSession.revoke_sessionId).rows := h
        rcases Table.mem_update_iff.mp hrow with ⟨hs, -⟩ | ⟨r, hr, -, rfl⟩
        · exact ⟨s, hs, .inl rfl⟩
        · exact ⟨r, hr, .inr rfl⟩
      · exact ⟨s, h, .inl rfl⟩
  | none =>
    rw [logout] at h
    split at h
    · rcases UserManagementService.mem_revokeSessions h with ⟨hs, -⟩ | ⟨r, hr, -, rfl⟩
      · exact ⟨s, hs, .inl rfl⟩
      · exact ⟨r, hr, .inr rfl⟩
    · exact ⟨s, h, .inl rfl⟩

theorem logout_users (sessionId : Option String) (userId : String) :
    (logout sessionId userId db).users = db.users := by
  cases sessionId with
  | some sessionId =>
    rw [logout]
    split
    · rfl
    · split <;> rfl
  | none =>
    rw [logout]
    split <;> rfl

end AuthService
end InstalFlow
