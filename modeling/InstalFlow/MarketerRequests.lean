import InstalFlow.PaymentEffects
import InstalFlow.Relational.Rows
import InstalFlow.Transition.Run
import InstalFlow.UserManagementService

/-!
# Requests about marketers

Admins ask the company to suspend or delete a marketer, and the company decides. The marketers
that the owner of the company has created are out of their reach: only the owner's own calls
change them.
-/

namespace InstalFlow
open Relational Transition

structure StaffInput where
  name : String
  email : String

/-- What is drawn for a new account: its id, its password, hashed, and the last part of its
referral code -/
structure StaffMoment where
  userId : String
  passwordHash : String := ""
  randomHex : String := ""

/-- `name.replace(/[^a-zA-Z0-9]/g, "").toUpperCase()` -/
def cleanName (name : String) : String :=
  String.ofList ((name.toList.filter Char.isAlphanum).map Char.toUpper)

/-- The insertion under the unique keys of a user -/
def insertUser (row : User) (db : Database) : Except AppError Database :=
  if row.referralCode.isSome ∧ db.users.rows.any fun u => u.referralCode = row.referralCode then
    .error (.uniqueViolation ["referralCode"])
  else do
    let users ← createRow db.users row ["userId"]
    return { db with users }

def emailTaken (email : String) (db : Database) : Bool := db.users.rows.any fun u => u.email = email

def AuthService.createMarketerAccount (companyId : Option String) (creatorId : String)
    (data : StaffInput) (m : StaffMoment) (db : Database) : Except AppError Database :=
  if emailTaken data.email db then .error (.conflict "Marketer email already in use")
  else insertUser
    { userId := m.userId
      email := data.email
      password := m.passwordHash
      name := some data.name
      role := .marketer
      companyId
      createdById := some creatorId
      referralCode := some ("IFL-REF-" ++ cleanName data.name ++ "-" ++ m.randomHex)
      forcePasswordChange := true } db

/-- The user who has created the account -/
def Database.creator (db : Database) (u : User) : Option User := u.createdById.bind db.users.find?

def Database.CreatedByOwner (db : Database) (u : User) : Prop :=
  ∃ c ∈ db.creator u, c.role = .company

namespace UserManagementService

def createAdmin (companyId creatorId : String) (data : StaffInput) (m : StaffMoment)
    (db : Database) : Except AppError Database :=
  if emailTaken data.email db then .error (.conflict "Email already in use")
  else insertUser
    { userId := m.userId
      email := data.email
      password := m.passwordHash
      name := some data.name
      role := .admin
      companyId := some companyId
      createdById := some creatorId
      forcePasswordChange := true } db

def ensureAdminCanManageMarketer (adminCompanyId marketerId : String) (db : Database) :
    Except AppError User :=
  match db.users.rows.find? fun u => u.userId = marketerId ∧ u.companyId = some adminCompanyId ∧
      u.role = .marketer ∧ u.deletedAt = none with
  | none => .error (.notFound "Marketer not found or deleted")
  | some marketer =>
    if (db.creator marketer).any fun c => c.role = .company then
      .error (.forbidden "You cannot modify a marketer created by the Company Owner.")
    else .ok marketer

def hasPending (companyId marketerId : String) (action : ApprovalAction) (db : Database) : Bool :=
  db.approvalRequests.rows.any fun r => r.companyId = companyId ∧ r.targetUserId = marketerId ∧
    r.action = action ∧ r.status = .pending

/-- Both requests ask for an action on a marketer in the same way. -/
def requestAction (action : ApprovalAction) (alreadyPending : String)
    (companyId marketerId adminId requestId : String) (db : Database) :
    Except AppError Database := do
  let _ ← ensureAdminCanManageMarketer companyId marketerId db
  if hasPending companyId marketerId action db then .error (.conflict alreadyPending)
  else if (db.users.find? adminId).isNone then .error (.error "Foreign key constraint violated")
  else
    let approvalRequests ← createRow db.approvalRequests
      { requestId, companyId, requestedById := adminId, targetUserId := marketerId, action }
      ["requestId"]
    return { db with approvalRequests }

def requestMarketerToggle : String → String → String → String → Database →
    Except AppError Database :=
  requestAction .toggleActive "A toggle request is already pending for this user."

def requestMarketerDeletion : String → String → String → String → Database →
    Except AppError Database :=
  requestAction .softDelete "A deletion request is already pending for this user."

end UserManagementService

open UserManagementService

inductive StaffStep
  | createMarketer (companyId : Option String) (creatorId : String) (data : StaffInput)
      (m : StaffMoment)
  | createAdmin (companyId creatorId : String) (data : StaffInput) (m : StaffMoment)
  | requestMarketerToggle (companyId marketerId adminId requestId : String)
  | requestMarketerDeletion (companyId marketerId adminId requestId : String)
  | handleApprovalRequest (companyId requestId : String) (data : HandleApproval) (now : DateTime)
  | toggleCompanyMarketerStatus (companyId companyUserId marketerId : String)
  | deleteCompanyMarketer (companyId companyUserId marketerId : String) (now : DateTime)
  | toggleAdminStatus (companyId adminId : String)
  | softDeleteAdmin (companyId adminId : String) (now : DateTime)

namespace StaffStep

def apply (db : Database) : StaffStep → Database
  | createMarketer companyId creatorId data m =>
      committed db id (AuthService.createMarketerAccount companyId creatorId data m db)
  | createAdmin companyId creatorId data m =>
      committed db id (UserManagementService.createAdmin companyId creatorId data m db)
  | requestMarketerToggle companyId marketerId adminId requestId => committed db id
      (UserManagementService.requestMarketerToggle companyId marketerId adminId requestId db)
  | requestMarketerDeletion companyId marketerId adminId requestId => committed db id
      (UserManagementService.requestMarketerDeletion companyId marketerId adminId requestId db)
  | handleApprovalRequest companyId requestId data now => committed db Prod.snd
      (UserManagementService.handleApprovalRequest companyId requestId data now db)
  | toggleCompanyMarketerStatus companyId companyUserId marketerId => committed db Prod.snd
      (UserManagementService.toggleCompanyMarketerStatus companyId companyUserId marketerId db)
  | deleteCompanyMarketer companyId companyUserId marketerId now => committed db Prod.snd
      (UserManagementService.deleteCompanyMarketer companyId companyUserId marketerId now db)
  | toggleAdminStatus companyId adminId => committed db Prod.snd
      (UserManagementService.toggleAdminStatus companyId adminId db)
  | softDeleteAdmin companyId adminId now => committed db id
      (UserManagementService.softDeleteAdmin companyId adminId now db)

/-- What a call of an owner makes of a marketer: nothing, unless the marketer is his -/
def ownCall (u : User) : StaffStep → User
  | toggleCompanyMarketerStatus companyId companyUserId marketerId =>
      if u.userId = marketerId ∧ u.companyId = some companyId ∧ u.createdById = some companyUserId ∧
          u.deletedAt = none then u.withActive (!u.active)
      else u
  | deleteCompanyMarketer companyId companyUserId marketerId now =>
      if u.userId = marketerId ∧ u.companyId = some companyId ∧ u.createdById = some companyUserId ∧
          u.deletedAt = none then u.softDeleted now
      else u
  | _ => u

end StaffStep

/-- A marketer within reach of the admins of a company -/
def Database.WithinReach (companyId userId : String) (db : Database) : Prop :=
  ∃ u, db.users.find? userId = some u ∧ u.role = .marketer ∧ u.companyId = some companyId ∧
    ¬ db.CreatedByOwner u

/-- Of every kind at most one request is pending for a marketer, and each is about a marketer
within reach. -/
structure Database.RequestsInOrder (db : Database) : Prop where
  single : ∀ r ∈ db.approvalRequests.rows, ∀ s ∈ db.approvalRequests.rows, r.status = .pending →
    s.status = .pending → r.companyId = s.companyId → r.targetUserId = s.targetUserId →
      r.action = s.action → r = s
  targets : ∀ r ∈ db.approvalRequests.rows, db.WithinReach r.companyId r.targetUserId

/-- No account changes its role, its company or its creator, and none of an owner is new. -/
structure KeepsIdentities (db db' : Database) : Prop where
  kept : ∀ k u, db.users.find? k = some u → ∃ v, db'.users.find? k = some v ∧ v.role = u.role ∧
    v.companyId = u.companyId ∧ v.createdById = u.createdById
  fresh : ∀ k v, db'.users.find? k = some v → v.role = .company →
    ∃ u, db.users.find? k = some u ∧ u.role = .company

section identities
variable {db db' : Database} {u v : User} {companyId k : String}

theorem KeepsIdentities.of_users_eq (h : db'.users = db.users) : KeepsIdentities db db' where
  kept _ u hu := ⟨u, h ▸ hu, rfl, rfl, rfl⟩
  fresh _ v hv hrole := ⟨v, h ▸ hv, hrole⟩

theorem keepsIdentities_updateUser {f : User → User} (hf : ∀ u, (f u).userId = u.userId)
    (hrole : ∀ u, (f u).role = u.role) (hcompany : ∀ u, (f u).companyId = u.companyId)
    (hcreator : ∀ u, (f u).createdById = u.createdById) :
    KeepsIdentities db (updateUser db k f hf) where
  kept l u hu := by
    rw [find?_updateUser, hu]
    split
    · exact ⟨f u, rfl, hrole u, hcompany u, hcreator u⟩
    · exact ⟨u, rfl, rfl, rfl, rfl⟩
  fresh l v hv howner := by
    rw [find?_updateUser] at hv
    split at hv
    · obtain ⟨u, hu, rfl⟩ := Option.map_eq_some_iff.mp hv
      exact ⟨u, hu, (hrole u).symm.trans howner⟩
    · exact ⟨v, hv, howner⟩

theorem insertUser_eq_ok {row : User} (h : insertUser row db = .ok db') :
    ∃ users, db.users.create row = some users ∧ db' = { db with users } := by
  rw [insertUser] at h
  split at h
  · cases h
  · obtain ⟨users, hcreate, h⟩ := bind_eq_ok.mp h
    cases h
    exact ⟨users, createRow_eq_ok.mp hcreate, rfl⟩

theorem keepsIdentities_insertUser {row : User} (h : insertUser row db = .ok db')
    (hrole : row.role ≠ .company) : KeepsIdentities db db' := by
  obtain ⟨users, hcreate, rfl⟩ := insertUser_eq_ok h
  refine ⟨fun l u hu => ⟨u, Table.find?_of_create hcreate hu, rfl, rfl, rfl⟩, ?_⟩
  intro l v hv howner
  rw [Table.find?_create hcreate] at hv
  split at hv
  · cases hv
    exact absurd howner hrole
  · exact ⟨v, hv, howner⟩

namespace KeepsIdentities

theorem createdByOwner_iff (h : KeepsIdentities db db') (hsame : v.createdById = u.createdById) :
    db'.CreatedByOwner v ↔ db.CreatedByOwner u := by
  simp only [Database.CreatedByOwner, Database.creator, hsame, Option.mem_def,
    Option.bind_eq_some_iff]
  constructor
  · rintro ⟨c, ⟨id, hid, hc⟩, hrole⟩
    obtain ⟨b, hb, hrole⟩ := h.fresh id c hc hrole
    exact ⟨b, ⟨id, hid, hb⟩, hrole⟩
  · rintro ⟨c, ⟨id, hid, hc⟩, hrole⟩
    obtain ⟨b, hb, hkept, -, -⟩ := h.kept id c hc
    exact ⟨b, ⟨id, hid, hb⟩, hkept.trans hrole⟩

theorem withinReach (h : KeepsIdentities db db') (hreach : db.WithinReach companyId k) :
    db'.WithinReach companyId k := by
  obtain ⟨u, hu, hrole, hcompany, howner⟩ := hreach
  obtain ⟨v, hv, hvrole, hvcompany, hvcreator⟩ := h.kept k u hu
  exact ⟨v, hv, hvrole.trans hrole, hvcompany.trans hcompany,
    fun hnew => howner ((h.createdByOwner_iff hvcreator).mp hnew)⟩

end KeepsIdentities

/-- Requests that are decided, or left alone, remain in order. -/
theorem Database.RequestsInOrder.decided (h : db.RequestsInOrder) (hkeeps : KeepsIdentities db db')
    (hrows : ∀ r ∈ db'.approvalRequests.rows, r ∈ db.approvalRequests.rows ∨ r.status ≠ .pending ∧
      ∃ s ∈ db.approvalRequests.rows, s.companyId = r.companyId ∧
        s.targetUserId = r.targetUserId) : db'.RequestsInOrder where
  single r hr s hs hrpending hspending := by
    rcases hrows r hr with hr | ⟨hdecided, -⟩
    · rcases hrows s hs with hs | ⟨hdecided, -⟩
      · exact h.single r hr s hs hrpending hspending
      · exact absurd hspending hdecided
    · exact absurd hrpending hdecided
  targets r hr := by
    rcases hrows r hr with hr | ⟨-, s, hs, hcompany, htarget⟩
    · exact hkeeps.withinReach (h.targets r hr)
    · rw [← hcompany, ← htarget]
      exact hkeeps.withinReach (h.targets s hs)

theorem Database.RequestsInOrder.undecided (h : db.RequestsInOrder)
    (hkeeps : KeepsIdentities db db') (heq : db'.approvalRequests = db.approvalRequests) :
    db'.RequestsInOrder :=
  h.decided hkeeps fun _ hr => .inl (heq ▸ hr)

namespace UserManagementService

theorem ensureAdminCanManageMarketer_eq_ok {marketerId : String}
    (h : ensureAdminCanManageMarketer companyId marketerId db = .ok u) :
    db.WithinReach companyId marketerId := by
  rw [ensureAdminCanManageMarketer] at h
  split at h
  · cases h
  · rename_i marketer hfind
    have hmem := List.mem_of_find?_eq_some hfind
    have hmarketer := List.find?_some hfind
    simp only [decide_eq_true_eq] at hmarketer
    obtain ⟨rfl, hcompany, hrole, -⟩ := hmarketer
    split at h
    · cases h
    · rename_i howner
      refine ⟨marketer, Table.find?_of_mem hmem, hrole, hcompany, fun hcreated => howner ?_⟩
      obtain ⟨c, hc, hcrole⟩ := hcreated
      rw [Option.mem_def.mp hc, Option.any_some]
      exact decide_eq_true hcrole

theorem requestAction_eq_ok {action : ApprovalAction}
    {alreadyPending marketerId adminId requestId : String}
    (h : requestAction action alreadyPending companyId marketerId adminId requestId db = .ok db') :
    db.WithinReach companyId marketerId ∧ hasPending companyId marketerId action db = false ∧
      ∃ requests, db.approvalRequests.create
          { requestId, companyId, requestedById := adminId, targetUserId := marketerId, action } =
            some requests ∧ db' = { db with approvalRequests := requests } := by
  obtain ⟨marketer, hensure, h⟩ := bind_eq_ok.mp h
  split at h
  · cases h
  · rename_i hpending
    split at h
    · cases h
    · obtain ⟨requests, hcreate, h⟩ := bind_eq_ok.mp h
      cases h
      exact ⟨ensureAdminCanManageMarketer_eq_ok hensure, Bool.eq_false_iff.mpr hpending, requests,
        createRow_eq_ok.mp hcreate, rfl⟩

theorem inOrder_requestAction {action : ApprovalAction}
    {alreadyPending marketerId adminId requestId : String} (hdb : db.RequestsInOrder)
    (h : requestAction action alreadyPending companyId marketerId adminId requestId db = .ok db') :
    db'.RequestsInOrder := by
  obtain ⟨hreach, hpending, requests, hcreate, rfl⟩ := requestAction_eq_ok h
  obtain ⟨-, hrows⟩ := Table.create_eq_some hcreate
  have hnone (r : ApprovalRequest) (hr : r ∈ db.approvalRequests.rows)
      (hrpending : r.status = .pending) (hcompany : r.companyId = companyId)
      (htarget : r.targetUserId = marketerId) (haction : r.action = action) : False := by
    rw [hasPending, List.any_eq_false] at hpending
    exact hpending r hr (decide_eq_true ⟨hcompany, htarget, haction, hrpending⟩)
  have hkeeps : KeepsIdentities db { db with approvalRequests := requests } :=
    .of_users_eq rfl
  constructor
  · intro r hr s hs hrpending hspending hcompany htarget haction
    simp only [hrows, List.mem_append, List.mem_singleton] at hr hs
    rcases hr with hr | rfl
    · rcases hs with hs | rfl
      · exact hdb.single r hr s hs hrpending hspending hcompany htarget haction
      · exact (hnone r hr hrpending hcompany htarget haction).elim
    · rcases hs with hs | rfl
      · exact (hnone s hs hspending hcompany.symm htarget.symm haction.symm).elim
      · rfl
  · intro r hr
    simp only [hrows, List.mem_append, List.mem_singleton] at hr
    rcases hr with hr | rfl
    · exact hkeeps.withinReach (hdb.targets r hr)
    · exact hkeeps.withinReach hreach

end UserManagementService
end identities

section steps
variable {db : Database} {u : User} {k : String} {e : StaffStep}

theorem keepsIdentities_revokeSessions {db' : Database} (h : KeepsIdentities db db') :
    KeepsIdentities db (revokeSessions k db') := ⟨h.kept, h.fresh⟩

theorem keepsIdentities_setActive (active : Bool) :
    KeepsIdentities db (setActive k active db) := by
  have hupdate : KeepsIdentities db
      (updateUser db k (User.withActive active) (User.withActive_userId active)) :=
    keepsIdentities_updateUser _ (fun _ => rfl) (fun _ => rfl) fun _ => rfl
  rw [setActive]
  split
  · exact hupdate
  · exact keepsIdentities_revokeSessions hupdate

theorem keepsIdentities_softDelete (now : DateTime) :
    KeepsIdentities db (softDelete k now db) :=
  keepsIdentities_revokeSessions (keepsIdentities_updateUser (User.softDeleted_userId now)
    (fun _ => rfl) (fun _ => rfl) fun _ => rfl)

theorem approvalRequests_setActive (active : Bool) :
    (setActive k active db).approvalRequests = db.approvalRequests := by
  rw [setActive]
  split <;> rfl

theorem inOrder_updateRequest (hdb : db.RequestsInOrder) {id : String}
    {f : ApprovalRequest → ApprovalRequest} {hf : ∀ r, (f r).requestId = r.requestId}
    (hstatus : ∀ r, (f r).status ≠ .pending) (hcompany : ∀ r, (f r).companyId = r.companyId)
    (htarget : ∀ r, (f r).targetUserId = r.targetUserId) :
    (updateRequest db id f hf).RequestsInOrder := by
  refine hdb.decided (.of_users_eq rfl) fun r hr => ?_
  have hrow : r ∈ (db.approvalRequests.update id f hf).rows := hr
  rcases Table.mem_update hrow with hr | ⟨s, hs, -, rfl⟩
  · exact .inl hr
  · exact .inr ⟨hstatus s, s, hs, (hcompany s).symm, (htarget s).symm⟩

theorem keeps_decideApproval (hdb : db.RequestsInOrder) (request : ApprovalRequest)
    (target : User) (data : HandleApproval) (now : DateTime) :
    KeepsIdentities db (decideApproval request target data now db).2 ∧
      (decideApproval request target data now db).2.RequestsInOrder := by
  rw [decideApproval]
  split
  · exact ⟨.of_users_eq rfl,
      inOrder_updateRequest hdb (fun r => by simp) (fun _ => rfl) fun _ => rfl⟩
  · have happroved : (updateRequest db request.requestId
        (fun r => { r with status := .approved, reviewedAt := some now })).RequestsInOrder :=
      inOrder_updateRequest hdb (fun r => by simp) (fun _ => rfl) fun _ => rfl
    rw [approveRequest]
    split
    · have hkeeps (db' : Database) : KeepsIdentities db' (updateUser db' target.userId
          (User.withActive !target.active) (User.withActive_userId _)) :=
        keepsIdentities_updateUser _ (fun _ => rfl) (fun _ => rfl) fun _ => rfl
      exact ⟨⟨(hkeeps db).kept, (hkeeps db).fresh⟩, happroved.undecided (hkeeps _) rfl⟩
    · have hkeeps (db' : Database) : KeepsIdentities db' (softDelete target.userId now db') :=
        keepsIdentities_softDelete now
      exact ⟨⟨(hkeeps db).kept, (hkeeps db).fresh⟩, happroved.undecided (hkeeps _) rfl⟩

namespace StaffStep

/-- What a refusal and each write of a step leave in place, the step leaves in place. -/
theorem apply_rule {P : Database → Prop} (e : StaffStep) (hrefused : P db)
    (hcreated : ∀ (row : User) {db' : Database}, (row.role = .admin ∨ row.role = .marketer ∧
      ∃ creatorId data m, row.createdById = some creatorId ∧
        e = .createMarketer row.companyId creatorId data m) → insertUser row db = .ok db' → P db')
    (hasked : ∀ {action : ApprovalAction}
      {alreadyPending companyId marketerId adminId requestId : String} {db' : Database},
      requestAction action alreadyPending companyId marketerId adminId requestId db = .ok db' →
        P db')
    (hdecided : ∀ {companyId requestId : String} {request : ApprovalRequest} {target : User}
      (data : HandleApproval) (now : DateTime),
      findApproval companyId requestId db = some (request, target) →
        P (decideApproval request target data now db).2)
    (hactive : ∀ id active, P (setActive id active db))
    (hdeleted : ∀ id now, P (softDelete id now db)) : P (e.apply db) := by
  cases e with
  | createMarketer companyId creatorId data m =>
    refine committed_rule hrefused fun db' h => ?_
    rw [AuthService.createMarketerAccount] at h
    split at h
    · cases h
    · exact hcreated _ (.inr ⟨rfl, creatorId, data, m, rfl, rfl⟩) h
  | createAdmin companyId creatorId data m =>
    refine committed_rule hrefused fun db' h => ?_
    rw [UserManagementService.createAdmin] at h
    split at h
    · cases h
    · exact hcreated _ (.inl rfl) h
  | requestMarketerToggle companyId marketerId adminId requestId =>
    exact committed_rule hrefused fun db' h => hasked h
  | requestMarketerDeletion companyId marketerId adminId requestId =>
    exact committed_rule hrefused fun db' h => hasked h
  | handleApprovalRequest companyId requestId data now =>
    refine committed_rule hrefused fun result h => ?_
    rw [UserManagementService.handleApprovalRequest] at h
    split at h
    · cases h
    · rename_i request target hfound
      cases h
      exact hdecided data now hfound
  | toggleCompanyMarketerStatus companyId companyUserId marketerId =>
    refine committed_rule hrefused fun result h => ?_
    rw [UserManagementService.toggleCompanyMarketerStatus] at h
    split at h
    · cases h
    · cases h
      exact hactive _ _
  | deleteCompanyMarketer companyId companyUserId marketerId now =>
    refine committed_rule hrefused fun result h => ?_
    rw [UserManagementService.deleteCompanyMarketer] at h
    split at h
    · cases h
    · cases h
      exact hdeleted _ now
  | toggleAdminStatus companyId adminId =>
    refine committed_rule hrefused fun result h => ?_
    rw [UserManagementService.toggleAdminStatus] at h
    split at h
    · cases h
    · split at h
      · cases h
      · cases h
        exact hactive _ _
  | softDeleteAdmin companyId adminId now =>
    refine committed_rule hrefused fun db' h => ?_
    rw [UserManagementService.softDeleteAdmin] at h
    split at h
    · cases h
    · cases h
      exact hdeleted _ now

/-- One step: no account changes hands, and the requests remain in order. -/
theorem keeps_apply (hdb : db.RequestsInOrder) (e : StaffStep) :
    KeepsIdentities db (e.apply db) ∧ (e.apply db).RequestsInOrder := by
  refine e.apply_rule (P := fun d => KeepsIdentities db d ∧ d.RequestsInOrder)
    ⟨.of_users_eq rfl, hdb⟩ (fun row db' hrow h => ?_) (fun h => ?_)
    (fun data now _ => keeps_decideApproval hdb _ _ data now)
    (fun id active => ⟨keepsIdentities_setActive active,
      hdb.undecided (keepsIdentities_setActive active) (approvalRequests_setActive active)⟩)
    fun id now => ⟨keepsIdentities_softDelete now,
      hdb.undecided (keepsIdentities_softDelete now) rfl⟩
  · have hrole : row.role ≠ .company := by
      rcases hrow with hadmin | ⟨hmarketer, -⟩
      · rw [hadmin]
        simp
      · rw [hmarketer]
        simp
    have hkeeps := keepsIdentities_insertUser h hrole
    obtain ⟨users, -, rfl⟩ := insertUser_eq_ok h
    exact ⟨hkeeps, hdb.undecided hkeeps rfl⟩
  · refine ⟨.of_users_eq ?_, inOrder_requestAction hdb h⟩
    obtain ⟨-, -, requests, -, rfl⟩ := requestAction_eq_ok h
    rfl

end StaffStep

theorem find?_setActive {id : String} (active : Bool) (hu : db.users.find? k = some u) :
    (setActive id active db).users.find? k = some (if k = id then u.withActive active else u) := by
  have hupdate : (updateUser db id (User.withActive active)
      (User.withActive_userId active)).users.find? k =
        some (if k = id then u.withActive active else u) := by
    rw [find?_updateUser, hu, Option.map_some, ← apply_ite some]
  rw [setActive]
  split <;> exact hupdate

theorem find?_softDelete {id : String} (now : DateTime) (hu : db.users.find? k = some u) :
    (softDelete id now db).users.find? k = some (if k = id then u.softDeleted now else u) := by
  have hupdate :
      (updateUser db id (User.softDeleted now) (User.softDeleted_userId now)).users.find? k =
        some (if k = id then u.softDeleted now else u) := by
    rw [find?_updateUser, hu, Option.map_some, ← apply_ite some]
  exact hupdate

theorem findMarketer_eq_some_iff {companyId companyUserId marketerId : String} :
    findMarketer companyId companyUserId marketerId db = some u ↔
      db.users.find? marketerId = some u ∧ u.role = .marketer ∧ u.companyId = some companyId ∧
        u.createdById = some companyUserId ∧ u.deletedAt = none := by
  rw [findMarketer, Table.find?_rows_eq_some_iff fun r hr => (of_decide_eq_true hr).1]
  refine and_congr_right fun hfind => ?_
  rw [decide_eq_true_eq, and_iff_right (Table.find?_key hfind)]

section ownCalls
variable {companyId companyUserId marketerId : String} (hu : db.users.find? k = some u)
include hu

theorem not_own_of_none (hrole : u.role = .marketer)
    (h : findMarketer companyId companyUserId marketerId db = none) :
    ¬ (u.userId = marketerId ∧ u.companyId = some companyId ∧ u.createdById = some companyUserId ∧
      u.deletedAt = none) := by
  rintro ⟨rfl, hmatches⟩
  have hmatch := findMarketer_eq_some_iff.mpr ⟨Table.find?_key hu ▸ hu, hrole, hmatches⟩
  rw [h] at hmatch
  cases hmatch

theorem own_iff_of_found {marketer : User}
    (h : findMarketer companyId companyUserId marketerId db = some marketer) :
    (k = marketerId → marketer = u) ∧
      ((u.userId = marketerId ∧ u.companyId = some companyId ∧ u.createdById = some companyUserId ∧
        u.deletedAt = none) ↔ k = marketerId) := by
  obtain ⟨hfind, -, hmatches⟩ := findMarketer_eq_some_iff.mp h
  have hsame : k = marketerId → marketer = u := by
    rintro rfl
    exact Option.some.inj (hfind.symm.trans hu)
  refine ⟨hsame, fun hown => (Table.find?_key hu).symm.trans hown.1, fun hid => ?_⟩
  obtain rfl := hsame hid
  exact ⟨(Table.find?_key hu).trans hid, hmatches⟩

end ownCalls

/-- A decision leaves the marketers of the owner alone. -/
theorem find?_decideApproval {request : ApprovalRequest} {target : User}
    (data : HandleApproval) (now : DateTime) (hu : db.users.find? k = some u)
    (hother : k ≠ target.userId) :
    (decideApproval request target data now db).2.users.find? k = some u := by
  rw [decideApproval]
  split
  · exact hu
  · have hdecided : (updateRequest db request.requestId
        (fun r => { r with status := .approved, reviewedAt := some now })).users.find? k = some u :=
      hu
    rw [approveRequest]
    split
    · exact (find?_updateUser _ _ _ _).trans ((if_neg hother).trans hdecided)
    · exact (find?_softDelete now hdecided).trans (congrArg some (if_neg hother))

namespace StaffStep

/-- Of a marketer whom an owner has created, a step makes what the owner's own call makes of
him. -/
theorem find?_apply (hdb : db.RequestsInOrder) (hu : db.users.find? k = some u)
    (hrole : u.role = .marketer) (howner : db.CreatedByOwner u) (e : StaffStep) :
    (e.apply db).users.find? k = some (e.ownCall u) := by
  have hkey : u.userId = k := Table.find?_key hu
  have hcreate {row : User} {db' : Database} (h : insertUser row db = .ok db') :
      db'.users.find? k = some u := by
    obtain ⟨users, hcreate, rfl⟩ := insertUser_eq_ok h
    exact Table.find?_of_create hcreate hu
  have hrequest {action : ApprovalAction}
      {alreadyPending companyId marketerId adminId requestId : String} {db' : Database}
      (h : requestAction action alreadyPending companyId marketerId adminId requestId db =
        .ok db') : db'.users.find? k = some u := by
    obtain ⟨-, -, requests, -, rfl⟩ := requestAction_eq_ok h
    exact hu
  have hadmin {companyId adminId : String} {admin : User}
      (h : findAdmin companyId adminId db = some admin) : k ≠ adminId := by
    obtain ⟨hfind, -, hadmin, -⟩ := findAdmin_eq_some h
    rintro rfl
    rw [hu] at hfind
    cases hfind
    rw [hrole] at hadmin
    cases hadmin
  cases e with
  | createMarketer companyId creatorId data m =>
    refine committed_rule (P := fun db' => db'.users.find? k = some u) hu fun db' h => ?_
    rw [AuthService.createMarketerAccount] at h
    split at h
    · cases h
    · exact hcreate h
  | createAdmin companyId creatorId data m =>
    refine committed_rule (P := fun db' => db'.users.find? k = some u) hu fun db' h => ?_
    rw [UserManagementService.createAdmin] at h
    split at h
    · cases h
    · exact hcreate h
  | requestMarketerToggle companyId marketerId adminId requestId =>
    exact committed_rule (P := fun db' => db'.users.find? k = some u) hu fun db' h => hrequest h
  | requestMarketerDeletion companyId marketerId adminId requestId =>
    exact committed_rule (P := fun db' => db'.users.find? k = some u) hu fun db' h => hrequest h
  | handleApprovalRequest companyId requestId data now =>
    refine committed_rule (P := fun db' => db'.users.find? k = some u) hu fun result h => ?_
    rw [UserManagementService.handleApprovalRequest] at h
    split at h
    · cases h
    · rename_i request target hfound
      cases h
      obtain ⟨hpending, htarget⟩ := findApproval_eq_some hfound
      obtain ⟨v, hv, -, -, hnot⟩ := hdb.targets request (List.mem_of_find?_eq_some hpending)
      refine find?_decideApproval data now hu ?_
      rintro rfl
      rw [Table.find?_key htarget, hv] at hu
      cases hu
      exact hnot howner
  | toggleCompanyMarketerStatus companyId companyUserId marketerId =>
    rw [apply, UserManagementService.toggleCompanyMarketerStatus, ownCall]
    cases hfound : findMarketer companyId companyUserId marketerId db with
    | none => rw [if_neg (not_own_of_none hu hrole hfound), committed, hu]
    | some marketer =>
      obtain ⟨hsame, hown⟩ := own_iff_of_found hu hfound
      refine (find?_setActive _ hu).trans (congrArg some ?_)
      rw [if_congr hown rfl rfl]
      split
      · rename_i hid
        rw [hsame hid]
      · rfl
  | deleteCompanyMarketer companyId companyUserId marketerId now =>
    rw [apply, UserManagementService.deleteCompanyMarketer, ownCall]
    cases hfound : findMarketer companyId companyUserId marketerId db with
    | none => rw [if_neg (not_own_of_none hu hrole hfound), committed, hu]
    | some marketer =>
      rw [if_congr (own_iff_of_found hu hfound).2 rfl rfl]
      exact find?_softDelete now hu
  | toggleAdminStatus companyId adminId =>
    refine committed_rule (P := fun db' => db'.users.find? k = some u) hu fun result h => ?_
    rw [UserManagementService.toggleAdminStatus] at h
    split at h
    · cases h
    · rename_i admin hfound
      split at h
      · cases h
      · cases h
        exact (find?_setActive _ hu).trans (congrArg some (if_neg (hadmin hfound)))
  | softDeleteAdmin companyId adminId now =>
    refine committed_rule (P := fun db' => db'.users.find? k = some u) hu fun db' h => ?_
    rw [UserManagementService.softDeleteAdmin] at h
    split at h
    · cases h
    · rename_i admin hfound
      cases h
      exact (find?_softDelete _ hu).trans (congrArg some (if_neg (hadmin hfound)))

theorem createdById_ownCall (e : StaffStep) (u : User) :
    (e.ownCall u).createdById = u.createdById ∧ (e.ownCall u).role = u.role := by
  cases e with
  | toggleCompanyMarketerStatus companyId companyUserId marketerId =>
    rw [ownCall]
    split <;> exact ⟨rfl, rfl⟩
  | deleteCompanyMarketer companyId companyUserId marketerId now =>
    rw [ownCall]
    split <;> exact ⟨rfl, rfl⟩
  | _ => exact ⟨rfl, rfl⟩

end StaffStep

/-- Whatever admins ask for and the company decides, at most one request of a kind is pending
for a marketer, none is about a marketer of the owner, and of these each account is what the
owner's own calls, in their order, make of it. -/
theorem owners_marketers_kept (hdb : db.RequestsInOrder) (steps : List StaffStep) :
    (run StaffStep.apply db steps).RequestsInOrder ∧
    ∀ k u, db.users.find? k = some u → u.role = .marketer → db.CreatedByOwner u →
      (run StaffStep.apply db steps).users.find? k =
        some (steps.foldl (fun u e => e.ownCall u) u) := by
  refine ⟨run_invariant (I := Database.RequestsInOrder)
    (fun _ e h => (StaffStep.keeps_apply h e).2) hdb steps, ?_⟩
  intro k u hu hrole howner
  induction steps generalizing db u with
  | nil => exact hu
  | cons e steps ih =>
    obtain ⟨hcreator, hsame⟩ := e.createdById_ownCall u
    obtain ⟨hkeeps, hnext⟩ := e.keeps_apply hdb
    exact ih hnext _ (StaffStep.find?_apply hdb hu hrole howner e) (hsame.trans hrole)
      ((hkeeps.createdByOwner_iff hcreator).mpr howner)

end steps

/-- An owner with a marketer, and an admin of the same company with another -/
def salesTeam : Database where
  users := ⟨[{ userId := "owner", email := "o@mail", role := .company, companyId := some "shop" },
    { userId := "admin", email := "a@mail", role := .admin, companyId := some "shop",
      createdById := some "owner" },
    { userId := "mark", email := "m@mail", role := .marketer, companyId := some "shop",
      createdById := some "owner" },
    { userId := "nina", email := "n@mail", role := .marketer, companyId := some "shop",
      createdById := some "admin" }], by decide⟩

/-- Both marketers are to be suspended, one of them twice; the owner suspends his own. -/
def suspensions : List StaffStep :=
  [.requestMarketerToggle "shop" "mark" "admin" "r₁",
    .requestMarketerToggle "shop" "nina" "admin" "r₂",
    .requestMarketerToggle "shop" "nina" "admin" "r₃",
    .handleApprovalRequest "shop" "r₂" { status := .approved } 5,
    .toggleCompanyMarketerStatus "shop" "owner" "mark",
    .toggleCompanyMarketerStatus "shop" "owner" "nina"]

theorem owners_marketers_kept_suspensions :
    ((run StaffStep.apply salesTeam suspensions).users.rows.map fun u => (u.userId, u.active)) =
        [("owner", true), ("admin", true), ("mark", false), ("nina", false)] ∧
      (run StaffStep.apply salesTeam suspensions).approvalRequests.rows.map
        ApprovalRequest.requestId = ["r₂"] ∧
    (run StaffStep.apply salesTeam suspensions).RequestsInOrder ∧
    ∀ k u, salesTeam.users.find? k = some u → u.role = .marketer → salesTeam.CreatedByOwner u →
      (run StaffStep.apply salesTeam suspensions).users.find? k =
        some (suspensions.foldl (fun u e => e.ownCall u) u) :=
  ⟨by decide +kernel, by decide +kernel, owners_marketers_kept
    ⟨by simp [salesTeam], by simp [salesTeam]⟩ suspensions⟩

end InstalFlow
