import InstalFlow.Schema

/-!
# User management

Companies suspend and delete their admins and marketers, admins ask for it by
approval requests that the company decides. Who is suspended or deleted loses the
sessions, except by an approval request that toggles a marketer: it leaves them alone.
-/

namespace InstalFlow
open Relational

/-- The decision of a request, with the reason of a rejection. -/
structure HandleApproval where
  status : ApprovalStatus
  reviewReason : Option String := none

structure StatusResult where
  message : String
  active : Bool
deriving DecidableEq

def UserSession.revoke (s : UserSession) : UserSession := { s with revoked := true }

theorem UserSession.revoke_sessionId (s : UserSession) : s.revoke.sessionId = s.sessionId := rfl

namespace User

def withActive (active : Bool) (u : User) : User := { u with active }

def softDeleted (now : DateTime) (u : User) : User := { u with deletedAt := some now, active := false }

theorem withActive_userId (active : Bool) (u : User) : (u.withActive active).userId = u.userId := rfl

theorem softDeleted_userId (now : DateTime) (u : User) : (u.softDeleted now).userId = u.userId := rfl

end User

namespace UserManagementService

def updateUser (db : Database) (userId : String) (f : User → User)
    (hf : ∀ u, (f u).userId = u.userId) : Database :=
  { db with users := db.users.update userId f hf }

def revokeSessions (userId : String) (db : Database) : Database :=
  { db with
    userSessions := db.userSessions.updateMany (fun s => s.userId = userId ∧ s.revoked = false)
      UserSession.revoke UserSession.revoke_sessionId }

/-- The transaction of a toggle. Its update is by id, with the value decided before. -/
def setActive (userId : String) (active : Bool) (db : Database) : Database :=
  let db := updateUser db userId (User.withActive active) (User.withActive_userId active)
  if active then db else revokeSessions userId db

/-- The transaction of a deletion. -/
def softDelete (userId : String) (now : DateTime) (db : Database) : Database :=
  revokeSessions userId
    (updateUser db userId (User.softDeleted now) (User.softDeleted_userId now))

section staff
variable (companyId : String)

def findAdmin (adminId : String) (db : Database) : Option User :=
  db.users.rows.find? (fun u => u.userId = adminId ∧ u.companyId = some companyId ∧
    u.role = .admin ∧ u.deletedAt = none)

/-- An admin of the company who can log in. -/
def activeAdmin (u : User) : Bool :=
  u.companyId = some companyId ∧ u.role = .admin ∧ u.active ∧ u.deletedAt = none

def activeAdminsCount (db : Database) : ℕ := db.users.rows.countP (activeAdmin companyId)

/-- A company user manages the marketers that this user has created. -/
def findMarketer (companyUserId marketerId : String) (db : Database) : Option User :=
  db.users.rows.find? (fun u => u.userId = marketerId ∧ u.role = .marketer ∧
    u.companyId = some companyId ∧ u.createdById = some companyUserId ∧ u.deletedAt = none)

def findPendingRequest (requestId : String) (db : Database) : Option ApprovalRequest :=
  db.approvalRequests.rows.find? (fun r => r.requestId = requestId ∧ r.companyId = companyId ∧
    r.status = .pending)

end staff

/-- The check in front of a toggle: an active admin is not the last one. -/
def checkSuspension (companyId : String) (admin : User) (db : Database) : Except AppError Unit :=
  if admin.active ∧ activeAdminsCount companyId db ≤ 1 then
    .error (.badRequest "You cannot suspend the last active admin.")
  else .ok ()

def toggleAdminStatus (companyId adminId : String) (db : Database) :
    Except AppError (StatusResult × Database) :=
  match findAdmin companyId adminId db with
  | none => .error (.notFound
      "Admin not found or you do not have permission to manage this admin")
  | some admin =>
    match checkSuspension companyId admin db with
    | .error err => .error err
    | .ok () =>
      let active := !admin.active
      .ok (⟨if active then "Admin activated successfully" else "Admin suspended successfully",
        active⟩, setActive adminId active db)

def softDeleteAdmin (companyId adminId : String) (now : DateTime) (db : Database) :
    Except AppError Database :=
  match findAdmin companyId adminId db with
  | none => .error (.notFound "Admin not found or already deleted")
  | some _ => .ok (softDelete adminId now db)

def toggleCompanyMarketerStatus (companyId companyUserId marketerId : String) (db : Database) :
    Except AppError (StatusResult × Database) :=
  match findMarketer companyId companyUserId marketerId db with
  | none => .error (.notFound
      "Marketer not found or you do not have permission to manage this marketer")
  | some marketer =>
    let active := !marketer.active
    .ok (⟨if active then "Marketer activated successfully" else "Marketer suspended successfully",
      active⟩, setActive marketerId active db)

def deleteCompanyMarketer (companyId companyUserId marketerId : String) (now : DateTime)
    (db : Database) : Except AppError (String × Database) :=
  match findMarketer companyId companyUserId marketerId db with
  | none => .error (.notFound
      "Marketer not found or you do not have permission to manage this marketer")
  | some _ => .ok ("Marketer deleted successfully", softDelete marketerId now db)

def updateRequest (db : Database) (requestId : String) (f : ApprovalRequest → ApprovalRequest)
    (hf : ∀ r, (f r).requestId = r.requestId := by intro r; rfl) : Database :=
  { db with approvalRequests := db.approvalRequests.update requestId f hf }

def rejectRequest (requestId : String) (reviewReason : Option String) (now : DateTime)
    (db : Database) : Database :=
  updateRequest db requestId fun r =>
    { r with status := .rejected, reviewReason := reviewReason.or r.reviewReason
             reviewedAt := some now }

/-- The transaction of an approval: the request is approved and its action executed, on
the target as it was read with the request. -/
def approveRequest (request : ApprovalRequest) (target : User) (now : DateTime) (db : Database) :
    Database :=
  let db := updateRequest db request.requestId fun r =>
    { r with status := .approved, reviewedAt := some now }
  match request.action with
  | .toggleActive =>
    updateUser db target.userId (User.withActive !target.active)
      (User.withActive_userId !target.active)
  | .softDelete => softDelete target.userId now db

/-- The request with its target, which the foreign key makes found. -/
def findApproval (companyId requestId : String) (db : Database) :
    Option (ApprovalRequest × User) :=
  (findPendingRequest companyId requestId db).bind fun request =>
    (db.users.find? request.targetUserId).map fun target => (request, target)

def decideApproval (request : ApprovalRequest) (target : User) (data : HandleApproval)
    (now : DateTime) (db : Database) : String × Database :=
  if data.status = .rejected then
    ("Request rejected", rejectRequest request.requestId data.reviewReason now db)
  else ("Request approved and action executed", approveRequest request target now db)

def handleApprovalRequest (companyId requestId : String) (data : HandleApproval) (now : DateTime)
    (db : Database) : Except AppError (String × Database) :=
  match findApproval companyId requestId db with
  | none => .error (.notFound "Pending approval request not found")
  | some (request, target) => .ok (decideApproval request target data now db)

section specs
variable {db : Database} {companyId : String} {u : User}

theorem mem_revokeSessions {userId : String} {s : UserSession}
    (h : s ∈ (revokeSessions userId db).userSessions.rows) :
    (s ∈ db.userSessions.rows ∧ (s.userId = userId → s.revoked = true)) ∨
      ∃ r ∈ db.userSessions.rows, r.userId = userId ∧ s = r.revoke := by
  have hrow : s ∈ (db.userSessions.updateMany (fun s => s.userId = userId ∧ s.revoked = false)
    UserSession.revoke UserSession.revoke_sessionId).rows := h
  rcases Table.mem_updateMany.mp hrow with ⟨hs, hother⟩ | ⟨r, hr, hmatches, rfl⟩
  · refine .inl ⟨hs, fun huser => ?_⟩
    simp only [huser, true_and, decide_eq_false_iff_not, Bool.not_eq_false] at hother
    exact hother
  · exact .inr ⟨r, hr, (of_decide_eq_true hmatches).1, rfl⟩

theorem find?_updateUser (id k : String) (f : User → User) (hf : ∀ u, (f u).userId = u.userId) :
    (updateUser db id f hf).users.find? k = if k = id then (db.users.find? k).map f
      else db.users.find? k :=
  Table.find?_update db.users id k f hf

theorem mem_updateUser_iff {id : String} {f : User → User}
    (hf : ∀ u, (f u).userId = u.userId) :
    u ∈ (updateUser db id f hf).users.rows ↔ (u ∈ db.users.rows ∧ u.userId ≠ id) ∨
      ∃ v ∈ db.users.rows, v.userId = id ∧ u = f v := by
  have hrows : (updateUser db id f hf).users.rows = (db.users.update id f hf).rows := rfl
  rw [hrows, Table.mem_update_iff]

theorem findAdmin_eq_some {adminId : String} (h : findAdmin companyId adminId db = some u) :
    db.users.find? adminId = some u ∧ u.companyId = some companyId ∧ u.role = .admin ∧
      u.deletedAt = none := by
  have hmem := List.mem_of_find?_eq_some h
  have hu := List.find?_some h
  simp only [decide_eq_true_eq] at hu
  obtain ⟨rfl, hcompany, hrole, hdeleted⟩ := hu
  exact ⟨Table.find?_of_mem hmem, hcompany, hrole, hdeleted⟩

theorem findMarketer_eq_some {companyUserId marketerId : String}
    (h : findMarketer companyId companyUserId marketerId db = some u) :
    db.users.find? marketerId = some u ∧ u.deletedAt = none := by
  have hmem := List.mem_of_find?_eq_some h
  have hu := List.find?_some h
  simp only [decide_eq_true_eq] at hu
  obtain ⟨rfl, -, -, -, hdeleted⟩ := hu
  exact ⟨Table.find?_of_mem hmem, hdeleted⟩

theorem findApproval_eq_some {requestId : String} {request : ApprovalRequest} {target : User}
    (h : findApproval companyId requestId db = some (request, target)) :
    findPendingRequest companyId requestId db = some request ∧
      db.users.find? request.targetUserId = some target := by
  obtain ⟨r, hr, hmap⟩ := Option.bind_eq_some_iff.mp h
  obtain ⟨t, ht, heq⟩ := Option.map_eq_some_iff.mp hmap
  cases heq
  exact ⟨hr, ht⟩

end specs
end UserManagementService
end InstalFlow
