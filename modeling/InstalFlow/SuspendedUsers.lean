import InstalFlow.AuthSessions
import InstalFlow.Transition.Run

/-!
# Suspended users

Neither the guard nor the refresh looks at the user, so a suspended user is locked
out when no session of the user is left. Every operation that suspends or deletes
revokes the sessions, but the approval of a toggle does not, and it inverts what it
has read of a user who may have been deleted since the request.
-/

namespace InstalFlow
open Relational Transition UserManagementService

def User.Suspended (u : User) : Prop := u.active = false ∨ u.deletedAt.isSome = true

instance (u : User) : Decidable u.Suspended := inferInstanceAs (Decidable (_ ∨ _))

/-- The user has a session that is not revoked. -/
def Live (db : Database) (userId : String) : Prop :=
  ∃ s ∈ db.userSessions.rows, s.userId = userId ∧ s.revoked = false

instance (db : Database) (userId : String) : Decidable (Live db userId) :=
  inferInstanceAs (Decidable (∃ s ∈ db.userSessions.rows, _))

/-- The database, and the access tokens that have been issued. -/
structure AuthState where
  db : Database
  issued : List AccessClaims := []

inductive AccountEvent
  | login (data : LoginData) (sessionId : String) (now : DateTime)
  | refresh (refreshToken : String) (now : DateTime)
  | logout (sessionId : Option String) (userId : String)
  | toggleAdminStatus (companyId adminId : String)
  | softDeleteAdmin (companyId adminId : String) (now : DateTime)
  | toggleCompanyMarketerStatus (companyId companyUserId marketerId : String)
  | deleteCompanyMarketer (companyId companyUserId marketerId : String) (now : DateTime)
  | handleApprovalRequest (companyId requestId : String) (data : HandleApproval) (now : DateTime)

def AccountEvent.apply (tokens : TokenService) (s : AuthState) : AccountEvent → AuthState
  | login data sessionId now =>
    match AuthService.login tokens data sessionId now s.db with
    | .ok (result, db) => ⟨db, s.issued ++ [result.accessToken]⟩
    | .error _ => s
  | refresh refreshToken now =>
    match AuthService.refresh tokens refreshToken now s.db with
    | .ok accessToken => { s with issued := s.issued ++ [accessToken] }
    | .error _ => s
  | logout sessionId userId => { s with db := AuthService.logout sessionId userId s.db }
  | toggleAdminStatus companyId adminId => { s with
      db := committed s.db Prod.snd
        (UserManagementService.toggleAdminStatus companyId adminId s.db) }
  | softDeleteAdmin companyId adminId now => { s with
      db := committed s.db id
        (UserManagementService.softDeleteAdmin companyId adminId now s.db) }
  | toggleCompanyMarketerStatus companyId companyUserId marketerId => { s with
      db := committed s.db Prod.snd
        (UserManagementService.toggleCompanyMarketerStatus companyId companyUserId marketerId
          s.db) }
  | deleteCompanyMarketer companyId companyUserId marketerId now => { s with
      db := committed s.db Prod.snd
        (UserManagementService.deleteCompanyMarketer companyId companyUserId marketerId now
          s.db) }
  | handleApprovalRequest companyId requestId data now => { s with
      db := committed s.db Prod.snd
        (UserManagementService.handleApprovalRequest companyId requestId data now s.db) }

section lockout
variable (tokens : TokenService)

/-- No session of the user is left, the guard rejects what has been issued to the
user, and nothing is issued to the user any more. -/
structure LockedOut (s : AuthState) (u : User) : Prop where
  sessions : ∀ session ∈ s.db.userSessions.rows, session.userId = u.userId →
    session.revoked = true
  guard : ∀ decoded ∈ s.issued, decoded.userId = u.userId → ∀ authorization now,
    requireAuth tokens authorization now s.db ≠ .ok decoded
  refresh : ∀ refreshToken now accessToken,
    AuthService.refresh tokens refreshToken now s.db = .ok accessToken →
    accessToken.userId ≠ u.userId

/-- The step leaves every suspended or deleted user locked out, and makes no deleted
user active again. -/
structure AccountEvent.LocksOut (s : AuthState) (e : AccountEvent) : Prop where
  lockedOut : ∀ u ∈ (e.apply tokens s).db.users.rows, u.Suspended →
    LockedOut tokens (e.apply tokens s) u
  deleted : ∀ u ∈ s.db.users.rows, u.deletedAt.isSome = true → u.active = false →
    ∀ v ∈ (e.apply tokens s).db.users.rows, v.userId = u.userId → v.active = false

/-- Whom an approved toggle suspends has no session left, and whom it makes active
is not deleted. -/
def AccountEvent.TogglesSafely (s : AuthState) : AccountEvent → Prop
  | handleApprovalRequest companyId requestId data _ =>
    ∀ request target, findApproval companyId requestId s.db = some (request, target) →
      data.status ≠ .rejected → request.action = .toggleActive →
      if target.active then ¬ Live s.db target.userId else target.deletedAt = none
  | _ => True

end lockout

section sessions
variable {db : Database} {id k : String}

/-- What never changes of a session. -/
def UserSession.identity (s : UserSession) : String × String × String :=
  (s.sessionId, s.userId, s.tokenHash)

theorem UserSession.identity_revoke (s : UserSession) : s.revoke.identity = s.identity := rfl

theorem live_revokeSessions (h : Live (revokeSessions id db) k) : Live db k ∧ k ≠ id := by
  obtain ⟨s, hs, rfl, hlive⟩ := h
  rcases mem_revokeSessions hs with ⟨hold, hrevoked⟩ | ⟨r, -, -, rfl⟩
  · refine ⟨⟨s, hold, rfl, hlive⟩, fun huser => ?_⟩
    rw [hrevoked huser] at hlive
    cases hlive
  · cases hlive

theorem identity_revokeSessions (db : Database) (id : String) :
    (revokeSessions id db).userSessions.rows.map UserSession.identity =
      db.userSessions.rows.map UserSession.identity :=
  Table.map_rows_updateMany _ _ UserSession.revoke_sessionId UserSession.identity_revoke

theorem live_logout {sessionId : Option String} (h : Live (AuthService.logout sessionId id db) k) :
    Live db k := by
  obtain ⟨s, hs, rfl, hlive⟩ := h
  obtain ⟨r, hr, rfl | rfl⟩ := AuthService.mem_logout hs
  · exact ⟨s, hr, rfl, hlive⟩
  · cases hlive

theorem identity_logout (sessionId : Option String) :
    (AuthService.logout sessionId id db).userSessions.rows.map UserSession.identity =
      db.userSessions.rows.map UserSession.identity := by
  cases sessionId with
  | some sessionId =>
    rw [AuthService.logout]
    split
    · rfl
    · split
      · exact Table.map_rows_update _ _ UserSession.revoke_sessionId UserSession.identity_revoke
      · rfl
  | none =>
    rw [AuthService.logout]
    split
    · exact identity_revokeSessions db id
    · rfl

end sessions

/-- No suspended user has a session left. -/
def SuspendedRevoked (db : Database) : Prop :=
  ∀ u ∈ db.users.rows, u.Suspended → ¬ Live db u.userId

instance (db : Database) : Decidable (SuspendedRevoked db) :=
  inferInstanceAs (Decidable (∀ u ∈ db.users.rows, _))

/-- What a writer of users does: whoever is active afterwards has been that before or
was not deleted, and whoever is suspended afterwards has no session or has been
suspended before. -/
structure Suspends (db db' : Database) : Prop where
  identity : db'.userSessions.rows.map UserSession.identity =
    db.userSessions.rows.map UserSession.identity
  revoked : SuspendedRevoked db → SuspendedRevoked db'
  deleted : ∀ u ∈ db.users.rows, u.deletedAt.isSome = true → u.active = false →
    ∀ v ∈ db'.users.rows, v.userId = u.userId → v.active = false

theorem Suspends.rfl {db : Database} : Suspends db db where
  identity := Eq.refl _
  revoked := id
  deleted u hu _ hinactive v hv hid := by rwa [Table.key_injective hv hu hid]

theorem Suspends.of_updateRequest {db db' : Database} {requestId : String}
    {f : ApprovalRequest → ApprovalRequest} {hf : ∀ r, (f r).requestId = r.requestId}
    (h : Suspends (updateRequest db requestId f hf) db') : Suspends db db' :=
  ⟨h.identity, h.revoked, h.deleted⟩

section writers
variable {db : Database} {u : User}

/-- An update of a user that leaves the sessions alone. -/
theorem suspends_updateUser (hu : db.users.find? u.userId = some u) (f : User → User)
    (hf : ∀ u, (f u).userId = u.userId)
    (hrevoked : (f u).Suspended → u.Suspended ∨ ¬ Live db u.userId)
    (hdeleted : u.deletedAt.isSome = true → u.active = false → (f u).active = false) :
    Suspends db (updateUser db u.userId f hf) where
  identity := rfl
  revoked h v hv hsuspended := by
    rcases (mem_updateUser_iff hf).mp hv with ⟨hold, -⟩ | ⟨w, hw, hid, rfl⟩
    · exact h v hold hsuspended
    · rw [Table.key_injective hw (Table.mem_of_find? hu) hid] at hsuspended ⊢
      rw [hf]
      rcases hrevoked hsuspended with hbefore | hnone
      · exact h u (Table.mem_of_find? hu) hbefore
      · exact hnone
  deleted t ht hdel hinactive v hv hid := by
    rcases (mem_updateUser_iff hf).mp hv with ⟨hold, -⟩ | ⟨w, hw, hkey, rfl⟩
    · rwa [Table.key_injective hold ht hid]
    · have htu : t = u := by
        rw [hf, hkey] at hid
        exact Table.key_injective ht (Table.mem_of_find? hu) hid.symm
      rw [Table.key_injective hw (Table.mem_of_find? hu) hkey]
      rw [htu] at hdel hinactive
      exact hdeleted hdel hinactive

/-- A user who is made inactive and loses the sessions. -/
theorem suspends_revokeSessions (f : User → User) (hf : ∀ u, (f u).userId = u.userId)
    (hinactive : ∀ u, (f u).active = false) (id : String) :
    Suspends db (revokeSessions id (updateUser db id f hf)) where
  identity := identity_revokeSessions _ id
  revoked h v hv hsuspended hlive := by
    obtain ⟨hlive, hne⟩ := live_revokeSessions hlive
    rcases (mem_updateUser_iff hf).mp hv with ⟨hold, -⟩ | ⟨w, -, hkey, rfl⟩
    · exact h v hold hsuspended hlive
    · exact hne ((hf w).trans hkey)
  deleted t ht _ hbefore v hv hid := by
    rcases (mem_updateUser_iff hf).mp hv with ⟨hold, -⟩ | ⟨w, -, -, rfl⟩
    · rwa [Table.key_injective hold ht hid]
    · exact hinactive w

theorem suspends_softDelete (userId : String) (now : DateTime) :
    Suspends db (softDelete userId now db) :=
  suspends_revokeSessions _ _ (fun _ => rfl) userId

theorem suspends_setActive (hu : db.users.find? u.userId = some u) (hdeleted : u.deletedAt = none)
    (active : Bool) : Suspends db (setActive u.userId active db) := by
  cases active with
  | true =>
    refine suspends_updateUser hu _ _ (fun hsuspended => ?_) fun hdel => ?_
    · rcases hsuspended with hinactive | hdel
      · cases hinactive
      · exact .inl (.inr hdel)
    · rw [hdeleted] at hdel
      cases hdel
  | false => exact suspends_revokeSessions _ _ (fun _ => rfl) u.userId

theorem suspends_committed {α : Type} {state : α → Database} {r : Except AppError α}
    (h : ∀ a, r = .ok a → Suspends db (state a)) : Suspends db (committed db state r) :=
  committed_rule .rfl h

theorem suspends_toggleAdminStatus (companyId adminId : String) :
    Suspends db (committed db Prod.snd (toggleAdminStatus companyId adminId db)) := by
  refine suspends_committed fun result h => ?_
  rw [toggleAdminStatus] at h
  split at h
  · cases h
  rename_i admin hadmin
  split at h
  · cases h
  · cases h
    obtain ⟨hfound, -, -, hdeleted⟩ := findAdmin_eq_some hadmin
    obtain rfl := Table.find?_key hfound
    exact suspends_setActive hfound hdeleted _

theorem suspends_softDeleteAdmin (companyId adminId : String) (now : DateTime) :
    Suspends db (committed db id (softDeleteAdmin companyId adminId now db)) := by
  refine suspends_committed fun result h => ?_
  rw [softDeleteAdmin] at h
  split at h
  · cases h
  · cases h
    exact suspends_softDelete adminId now

theorem suspends_toggleCompanyMarketerStatus (companyId companyUserId marketerId : String) :
    Suspends db (committed db Prod.snd
      (toggleCompanyMarketerStatus companyId companyUserId marketerId db)) := by
  refine suspends_committed fun result h => ?_
  rw [toggleCompanyMarketerStatus] at h
  split at h
  · cases h
  · rename_i marketer hmarketer
    cases h
    obtain ⟨hfound, hdeleted⟩ := findMarketer_eq_some hmarketer
    obtain rfl := Table.find?_key hfound
    exact suspends_setActive hfound hdeleted _

theorem suspends_deleteCompanyMarketer (companyId companyUserId marketerId : String)
    (now : DateTime) : Suspends db (committed db Prod.snd
      (deleteCompanyMarketer companyId companyUserId marketerId now db)) := by
  refine suspends_committed fun result h => ?_
  rw [deleteCompanyMarketer] at h
  split at h
  · cases h
  · cases h
    exact suspends_softDelete marketerId now

theorem suspends_logout (sessionId : Option String) (userId : String) :
    Suspends db (AuthService.logout sessionId userId db) where
  identity := identity_logout sessionId
  revoked h u hu hsuspended hlive := by
    rw [AuthService.logout_users] at hu
    exact h u hu hsuspended (live_logout hlive)
  deleted t ht hdel hinactive v hv hid := by
    rw [AuthService.logout_users] at hv
    rwa [Table.key_injective hv ht hid]

theorem suspends_decideApproval {request : ApprovalRequest} {target : User}
    (htarget : db.users.find? target.userId = some target) (data : HandleApproval) (now : DateTime)
    (hsafe : data.status ≠ .rejected → request.action = .toggleActive →
      if target.active then ¬ Live db target.userId else target.deletedAt = none) :
    Suspends db (decideApproval request target data now db).2 := by
  rw [decideApproval]
  split
  · exact ⟨rfl, fun h => h, Suspends.rfl.deleted⟩
  · rename_i happroved
    have hsafe := hsafe happroved
    rw [approveRequest]
    cases haction : request.action with
    | softDelete => exact .of_updateRequest (suspends_softDelete target.userId now)
    | toggleActive =>
      have hsafe := hsafe haction
      have hfound (f : ApprovalRequest → ApprovalRequest)
          (hf : ∀ r, (f r).requestId = r.requestId) :
          (updateRequest db request.requestId f hf).users.find? target.userId = some target :=
        htarget
      refine .of_updateRequest (suspends_updateUser (hfound _ _) _ _ (fun hsuspended => ?_)
        fun hdel hinactive => ?_)
      · cases hactive : target.active with
        | true =>
          rw [hactive, if_pos rfl] at hsafe
          exact .inr hsafe
        | false => exact .inl (.inl hactive)
      · rw [hinactive, if_neg Bool.false_ne_true] at hsafe
        rw [hsafe] at hdel
        cases hdel

end writers

/-- Every token that has been issued is for the user of its session, and the hash of a
session is that of a token signed for its user. -/
structure AuthState.Sound (tokens : TokenService) (s : AuthState) : Prop where
  issued : ∀ decoded ∈ s.issued, ∃ tokenHash,
    (decoded.sessionId, decoded.userId, tokenHash) ∈
      s.db.userSessions.rows.map UserSession.identity
  hashed : ∀ t ∈ s.db.userSessions.rows.map UserSession.identity, ∃ claims signedAt,
    t.2.2 = tokens.hashRefreshToken (tokens.generateRefreshToken claims signedAt) ∧
      claims.userId = t.2.1

theorem identity_decideApproval (request : ApprovalRequest) (target : User) (data : HandleApproval)
    (now : DateTime) (db : Database) :
    (decideApproval request target data now db).2.userSessions.rows.map UserSession.identity =
      db.userSessions.rows.map UserSession.identity := by
  rw [decideApproval]
  split
  · rfl
  · rw [approveRequest]
    cases request.action with
    | toggleActive => rfl
    | softDelete => exact identity_revokeSessions _ target.userId

section sound
variable {tokens : TokenService} {s : AuthState}

/-- A token is issued by a refresh for the user whose session it is. -/
theorem AuthState.Sound.refresh (hs : s.Sound tokens) {refreshToken : String} {now : DateTime}
    {accessToken : AccessClaims}
    (h : AuthService.refresh tokens refreshToken now s.db = .ok accessToken) :
    ∃ session ∈ s.db.userSessions.rows, session.revoked = false ∧
      session.sessionId = accessToken.sessionId ∧ session.userId = accessToken.userId := by
  obtain ⟨decoded, hdecoded, session, hsession, hhash, hlive, user, huser, rfl⟩ :=
    AuthService.refresh_eq_ok h
  obtain ⟨claims, signedAt, hsigned, hclaims⟩ :=
    hs.hashed session.identity (List.mem_map_of_mem hsession)
  have hsame := tokens.verify_hash claims signedAt refreshToken now decoded
    (hhash.symm.trans hsigned) hdecoded
  exact ⟨session, hsession, hlive, rfl,
    hclaims.symm.trans (hsame.symm.trans (Table.find?_key huser).symm)⟩

theorem lockedOut_iff (hs : s.Sound tokens) (u : User) :
    LockedOut tokens s u ↔ ¬ Live s.db u.userId := by
  constructor
  · intro h hlive
    obtain ⟨session, hsession, huser, hlive⟩ := hlive
    rw [h.sessions session hsession huser] at hlive
    cases hlive
  · intro hnone
    have hrevoked : ∀ session ∈ s.db.userSessions.rows, session.userId = u.userId →
        session.revoked = true := by
      intro session hsession huser
      by_contra hlive
      exact hnone ⟨session, hsession, huser, by simpa using hlive⟩
    refine ⟨hrevoked, fun decoded hdecoded huser authorization now hpass => ?_,
      fun refreshToken now accessToken hissued huser => ?_⟩
    · obtain ⟨session, hfound, hlive⟩ := AuthService.requireAuth_eq_ok hpass
      obtain ⟨tokenHash, hmem⟩ := hs.issued decoded hdecoded
      obtain ⟨owner, howner, hidentity⟩ := List.mem_map.mp hmem
      simp only [UserSession.identity, Prod.mk.injEq] at hidentity
      have hsame := Table.key_injective howner (Table.mem_of_find? hfound)
        (hidentity.1.trans (Table.find?_key hfound).symm)
      rw [hsame] at hidentity
      rw [hrevoked session (Table.mem_of_find? hfound) (hidentity.2.1.trans huser)] at hlive
      cases hlive
    · obtain ⟨session, hsession, hlive, -, howner⟩ := hs.refresh hissued
      rw [hrevoked session hsession (howner.trans huser)] at hlive
      cases hlive

/-- What leaves the sessions what they are keeps the tokens sound. -/
theorem AuthState.Sound.of_identity {db : Database} (hs : s.Sound tokens)
    (h : db.userSessions.rows.map UserSession.identity =
      s.db.userSessions.rows.map UserSession.identity) : AuthState.Sound tokens { s with db } where
  issued := by
    rw [h]
    exact hs.issued
  hashed := by
    rw [h]
    exact hs.hashed

theorem AuthState.Sound.login {data : LoginData} {sessionId : String} {now : DateTime}
    {result : LoginResult} {db : Database} (hs : s.Sound tokens)
    (h : AuthService.login tokens data sessionId now s.db = .ok (result, db)) :
    AuthState.Sound tokens ⟨db, s.issued ++ [result.accessToken]⟩ := by
  obtain ⟨user, -, -, -, userSessions, hcreate, rfl, haccess⟩ := AuthService.login_eq_ok h
  obtain ⟨-, hrows⟩ := Table.create_eq_some hcreate
  refine ⟨fun decoded hdecoded => ?_, fun t ht => ?_⟩
  · simp only [hrows, List.map_append, List.mem_append]
    rcases List.mem_append.mp hdecoded with hold | hnew
    · obtain ⟨tokenHash, hmem⟩ := hs.issued decoded hold
      exact ⟨tokenHash, .inl hmem⟩
    · rw [List.mem_singleton.mp hnew, haccess]
      exact ⟨_, .inr (List.mem_singleton_self _)⟩
  · simp only [hrows, List.map_append, List.mem_append] at ht
    rcases ht with hold | hnew
    · exact hs.hashed t hold
    · rw [List.mem_singleton.mp hnew]
      exact ⟨user.claims, now, rfl, rfl⟩

theorem AccountEvent.sound_apply (hs : s.Sound tokens) (e : AccountEvent) :
    (e.apply tokens s).Sound tokens := by
  cases e with
  | login data sessionId now =>
    rw [apply]
    split
    · rename_i result db h
      exact hs.login h
    · exact hs
  | refresh refreshToken now =>
    rw [apply]
    split
    · rename_i accessToken h
      refine ⟨fun decoded hdecoded => ?_, hs.hashed⟩
      rcases List.mem_append.mp hdecoded with hold | hnew
      · exact hs.issued decoded hold
      · obtain ⟨session, hsession, -, hid, huser⟩ := hs.refresh h
        rw [List.mem_singleton.mp hnew, ← hid, ← huser]
        exact ⟨session.tokenHash, List.mem_map_of_mem hsession⟩
    · exact hs
  | logout sessionId userId => exact hs.of_identity (suspends_logout sessionId userId).identity
  | toggleAdminStatus companyId adminId =>
    exact hs.of_identity (suspends_toggleAdminStatus companyId adminId).identity
  | softDeleteAdmin companyId adminId now =>
    exact hs.of_identity (suspends_softDeleteAdmin companyId adminId now).identity
  | toggleCompanyMarketerStatus companyId companyUserId marketerId =>
    exact hs.of_identity
      (suspends_toggleCompanyMarketerStatus companyId companyUserId marketerId).identity
  | deleteCompanyMarketer companyId companyUserId marketerId now =>
    exact hs.of_identity
      (suspends_deleteCompanyMarketer companyId companyUserId marketerId now).identity
  | handleApprovalRequest companyId requestId data now =>
    refine hs.of_identity (committed_rule (P := fun db =>
      db.userSessions.rows.map UserSession.identity =
        s.db.userSessions.rows.map UserSession.identity) rfl fun result h => ?_)
    rw [UserManagementService.handleApprovalRequest] at h
    split at h
    · cases h
    · cases h
      exact identity_decideApproval _ _ data now s.db

namespace AccountEvent

theorem locksOut_of_suspends {e : AccountEvent} (hs : s.Sound tokens)
    (hrevoked : SuspendedRevoked s.db) (h : Suspends s.db (e.apply tokens s).db) :
    e.LocksOut tokens s where
  lockedOut u hu hsuspended :=
    (lockedOut_iff (e.sound_apply hs) u).mpr (h.revoked hrevoked u hu hsuspended)
  deleted := h.deleted

/-- Who logs in is neither suspended nor deleted. -/
theorem locksOut_login (hs : s.Sound tokens) (hrevoked : SuspendedRevoked s.db) (data : LoginData)
    (sessionId : String) (now : DateTime) : (login data sessionId now).LocksOut tokens s := by
  have hsound := (login data sessionId now).sound_apply hs
  rw [apply] at hsound
  cases hlogin : AuthService.login tokens data sessionId now s.db with
  | error err =>
    have happly : (login data sessionId now).apply tokens s = s := by rw [apply, hlogin]
    refine locksOut_of_suspends hs hrevoked ?_
    rw [happly]
    exact .rfl
  | ok r =>
    obtain ⟨result, db⟩ := r
    rw [hlogin] at hsound
    have happly : (login data sessionId now).apply tokens s =
        ⟨db, s.issued ++ [result.accessToken]⟩ := by rw [apply, hlogin]
    obtain ⟨user, huser, hactive, hdeleted, userSessions, hcreate, hdb, -⟩ :=
      AuthService.login_eq_ok hlogin
    have husers : db.users = s.db.users := by rw [hdb]
    obtain ⟨-, hrows⟩ := Table.create_eq_some hcreate
    constructor
    · rw [happly]
      intro u hu hsuspended
      rw [husers] at hu
      refine (lockedOut_iff hsound u).mpr fun hlive => ?_
      obtain ⟨session, hsession, howner, hopen⟩ := hlive
      rw [hdb, hrows, List.mem_append, List.mem_singleton] at hsession
      rcases hsession with hold | rfl
      · exact hrevoked u hu hsuspended ⟨session, hold, howner, hopen⟩
      · rw [Table.key_injective hu huser howner.symm] at hsuspended
        rcases hsuspended with hinactive | hdel
        · rw [hactive] at hinactive
          cases hinactive
        · rw [hdeleted] at hdel
          cases hdel
    · rw [happly]
      intro u hu hdel hinactive v hv hid
      rw [husers] at hv
      exact Suspends.rfl.deleted u hu hdel hinactive v hv hid

theorem locksOut_refresh (hs : s.Sound tokens) (hrevoked : SuspendedRevoked s.db)
    (refreshToken : String) (now : DateTime) : (refresh refreshToken now).LocksOut tokens s := by
  refine locksOut_of_suspends hs hrevoked ?_
  rw [apply]
  split <;> exact .rfl

/-- The approval of a toggle inverts what it has read, and leaves the sessions alone. -/
theorem togglesSafely_of_locksOut {companyId requestId : String} {data : HandleApproval}
    {now : DateTime} (hs : s.Sound tokens)
    (h : (handleApprovalRequest companyId requestId data now).LocksOut tokens s) :
    (handleApprovalRequest companyId requestId data now).TogglesSafely s := by
  intro request target hfound hstatus haction
  have hid := (findApproval_eq_some hfound).2
  have htarget := Table.find?_key hid
  have hmem := Table.mem_of_find? hid
  set e := handleApprovalRequest companyId requestId data now with he
  have hdb : (e.apply tokens s).db = approveRequest request target now s.db := by
    simp only [he, apply, UserManagementService.handleApprovalRequest, hfound, committed_ok,
      decideApproval, if_neg hstatus]
  have hlive (k : String) : Live (e.apply tokens s).db k ↔ Live s.db k := by
    rw [hdb, approveRequest, haction]
    rfl
  have husers : (e.apply tokens s).db.users = s.db.users.update target.userId
      (User.withActive !target.active) (User.withActive_userId _) := by
    rw [hdb, approveRequest, haction]
    rfl
  have hrow : (target.withActive !target.active) ∈ (e.apply tokens s).db.users.rows := by
    rw [husers]
    exact Table.mem_update_iff.mpr (.inr ⟨target, hmem, rfl, rfl⟩)
  cases hactive : target.active with
  | true =>
    rw [if_pos rfl]
    intro hopen
    have hsuspended : User.Suspended (target.withActive !target.active) := by
      left
      rw [hactive]
      rfl
    have hlocked := h.lockedOut _ hrow hsuspended
    exact (lockedOut_iff (e.sound_apply hs) _).mp hlocked ((hlive target.userId).mpr hopen)
  | false =>
    rw [if_neg Bool.false_ne_true]
    by_contra hdeleted
    have hdel : target.deletedAt.isSome = true := Option.isSome_iff_ne_none.mpr hdeleted
    have hagain := h.deleted target hmem hdel hactive _ hrow rfl
    simp only [User.withActive, hactive, Bool.not_false, Bool.true_eq_false] at hagain

theorem locksOut_iff (hs : s.Sound tokens) (hrevoked : SuspendedRevoked s.db) (e : AccountEvent) :
    e.LocksOut tokens s ↔ e.TogglesSafely s := by
  cases e with
  | login data sessionId now =>
    exact iff_of_true (locksOut_login hs hrevoked data sessionId now) trivial
  | refresh refreshToken now =>
    exact iff_of_true (locksOut_refresh hs hrevoked refreshToken now) trivial
  | logout sessionId userId =>
    exact iff_of_true (locksOut_of_suspends hs hrevoked (suspends_logout sessionId userId)) trivial
  | toggleAdminStatus companyId adminId =>
    exact iff_of_true
      (locksOut_of_suspends hs hrevoked (suspends_toggleAdminStatus companyId adminId)) trivial
  | softDeleteAdmin companyId adminId now =>
    exact iff_of_true
      (locksOut_of_suspends hs hrevoked (suspends_softDeleteAdmin companyId adminId now)) trivial
  | toggleCompanyMarketerStatus companyId companyUserId marketerId =>
    exact iff_of_true (locksOut_of_suspends hs hrevoked
      (suspends_toggleCompanyMarketerStatus companyId companyUserId marketerId)) trivial
  | deleteCompanyMarketer companyId companyUserId marketerId now =>
    exact iff_of_true (locksOut_of_suspends hs hrevoked
      (suspends_deleteCompanyMarketer companyId companyUserId marketerId now)) trivial
  | handleApprovalRequest companyId requestId data now =>
    refine ⟨togglesSafely_of_locksOut hs, fun hsafe => locksOut_of_suspends hs hrevoked ?_⟩
    refine suspends_committed fun result h => ?_
    rw [UserManagementService.handleApprovalRequest] at h
    split at h
    · cases h
    · rename_i request target hfound
      cases h
      have htarget := (findApproval_eq_some hfound).2
      have hkey := Table.find?_key htarget
      rw [← hkey] at htarget
      exact suspends_decideApproval htarget data now (hsafe request target hfound)

end AccountEvent
end sound

/-- In every run of logins, refreshes, logouts, suspensions, deletions and decisions of
approval requests, suspended and deleted users are locked out and no deleted user
becomes active again in exactly the runs in which each approved toggle suspends a user
without a session or activates one who is not deleted. -/
theorem suspended_locked_out_iff (tokens : TokenService) {s : AuthState} (hs : s.Sound tokens)
    (hrevoked : SuspendedRevoked s.db) (events : List AccountEvent) :
    Along (AccountEvent.apply tokens) (fun s e => e.LocksOut tokens s) s events ↔
      Along (AccountEvent.apply tokens) (fun s e => e.TogglesSafely s) s events := by
  refine along_iff_along (I := fun s => s.Sound tokens ∧ SuspendedRevoked s.db)
    (fun s e h => e.locksOut_iff h.1 h.2) (fun s e h hsafe => ⟨e.sound_apply h.1, ?_⟩)
    ⟨hs, hrevoked⟩
  have hlocked := (e.locksOut_iff h.1 h.2).mpr hsafe
  exact fun u hu hsuspended =>
    (lockedOut_iff (e.sound_apply h.1) u).mp (hlocked.lockedOut u hu hsuspended)

/-- Tokens that name their user and are their own hash. -/
def plainTokens : TokenService where
  bcryptCompare password hash := password = hash
  generateRefreshToken claims _ := claims.userId
  verifyRefreshToken token _ := .ok ⟨token, .marketer, "", none⟩
  verifyAccessToken token _ :=
    .ok { userId := "mark", role := .marketer, email := "", sessionId := token }
  hashRefreshToken token := token
  verify_hash claims _ token _ decoded hhash hdecoded := by
    cases hdecoded
    exact hhash

/-- A company with a marketer, whom an admin has asked to suspend and to delete. -/
def marketedCompany : AuthState where
  db :=
    { users := ⟨[{ userId := "mark", email := "mark@mail", password := "secret", role := .marketer
                   companyId := some "market", createdById := some "head" }], by decide⟩
      approvalRequests :=
        ⟨[{ requestId := "suspend", companyId := "market", requestedById := "admin"
            targetUserId := "mark", action := .toggleActive },
          { requestId := "delete", companyId := "market", requestedById := "admin"
            targetUserId := "mark", action := .softDelete }], by decide⟩ }

theorem marketedCompany_sound : marketedCompany.Sound plainTokens where
  issued _ h := absurd h List.not_mem_nil
  hashed _ h := absurd h List.not_mem_nil

theorem marketedCompany_revoked : SuspendedRevoked marketedCompany.db := by decide

def loginMark : AccountEvent := .login ⟨"mark@mail", "secret"⟩ "session" 0

def suspendByRequest : AccountEvent :=
  .handleApprovalRequest "market" "suspend" { status := .approved } 2

theorem suspended_by_company_locked_out :
    Along (AccountEvent.apply plainTokens) (fun s e => e.LocksOut plainTokens s) marketedCompany
      [loginMark, .toggleCompanyMarketerStatus "market" "head" "mark", .refresh "mark" 1] :=
  (suspended_locked_out_iff plainTokens marketedCompany_sound marketedCompany_revoked _).mpr
    ⟨trivial, trivial, trivial, trivial⟩

/-- A marketer suspended by request keeps the session, and one who has been deleted
and suspended before is made active. -/
theorem suspended_by_request_logged_in :
    ¬ Along (AccountEvent.apply plainTokens) (fun s e => e.LocksOut plainTokens s) marketedCompany
      [loginMark, suspendByRequest] ∧
    ¬ Along (AccountEvent.apply plainTokens) (fun s e => e.LocksOut plainTokens s) marketedCompany
      [.handleApprovalRequest "market" "delete" { status := .approved } 1, suspendByRequest] := by
  constructor
  · intro h
    obtain ⟨-, hlocks, -⟩ := h
    have hrow : ∃ u ∈ (run (AccountEvent.apply plainTokens) marketedCompany
        [loginMark, suspendByRequest]).db.users.rows, u.Suspended ∧ u.userId = "mark" := by
      decide +kernel
    have hopen : ∃ session ∈ (run (AccountEvent.apply plainTokens) marketedCompany
        [loginMark, suspendByRequest]).db.userSessions.rows,
        session.userId = "mark" ∧ session.revoked = false := by decide +kernel
    obtain ⟨u, hu, hsuspended, hid⟩ := hrow
    obtain ⟨session, hsession, howner, hlive⟩ := hopen
    have hrevoked := (hlocks.lockedOut u hu hsuspended).sessions session hsession
      (howner.trans hid.symm)
    rw [hlive] at hrevoked
    cases hrevoked
  · intro h
    obtain ⟨-, hlocks, -⟩ := h
    have hdeleted : ∃ u ∈ (run (AccountEvent.apply plainTokens) marketedCompany
        [.handleApprovalRequest "market" "delete" { status := .approved } 1]).db.users.rows,
        u.deletedAt.isSome = true ∧ u.active = false ∧ u.userId = "mark" := by decide +kernel
    have hactive : ∃ u ∈ (run (AccountEvent.apply plainTokens) marketedCompany
        [.handleApprovalRequest "market" "delete" { status := .approved } 1,
          suspendByRequest]).db.users.rows, u.userId = "mark" ∧ u.active = true := by
      decide +kernel
    obtain ⟨u, hu, hdel, hinactive, hid⟩ := hdeleted
    obtain ⟨v, hv, hvid, hagain⟩ := hactive
    have hnever := hlocks.deleted u hu hdel hinactive v hv (hvid.trans hid.symm)
    rw [hagain] at hnever
    cases hnever

end InstalFlow
