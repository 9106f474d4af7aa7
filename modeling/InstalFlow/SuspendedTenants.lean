import InstalFlow.CatalogueTenancy
import InstalFlow.SubscriptionGuard

/-!
# Suspended tenants

The platform suspends a company with a reason and takes the suspension back. Until then its
members are stopped by a guard in front of every request that writes, while customers, whom the
guard lets pass, are stopped by their role.
-/

namespace InstalFlow
open Relational Transition

inductive CompanyStatus
  | active | suspended
deriving DecidableEq, Repr

/-- A company as the platform manages it -/
structure Tenant where
  companyId : String
  name : String := ""
  status : CompanyStatus := .active
  suspendedAt : Option DateTime := none
  suspendedReason : Option String := none
  suspendedById : Option String := none

structure SetTenantStatusInput where
  status : CompanyStatus
  reason : Option String := none
  performedById : String

namespace TenantManagementService

def withStatus (data : SetTenantStatusInput) (now : DateTime) (t : Tenant) : Tenant :=
  { t with
    status := data.status
    suspendedAt := if data.status = .suspended then some now else none
    suspendedReason := if data.status = .suspended then data.reason else none
    suspendedById := if data.status = .suspended then some data.performedById else none }

theorem withStatus_companyId (data : SetTenantStatusInput) (now : DateTime) (t : Tenant) :
    (withStatus data now t).companyId = t.companyId := rfl

def setTenantStatus (companyId : String) (data : SetTenantStatusInput) (now : DateTime)
    (tenants : Table Tenant.companyId) : Except AppError (Table Tenant.companyId) :=
  if (tenants.find? companyId).isNone then .error (.notFound "Tenant not found.")
  else if data.status = .suspended ∧ (data.reason.filter fun reason => reason ≠ "").isNone then
    .error (.badRequest "A reason is required to suspend a tenant.")
  else .ok (tenants.update companyId (withStatus data now) (withStatus_companyId data now))

end TenantManagementService

namespace CompanyStatusGuard
open SubscriptionGuard (Request)

def exemptRoles : List Role := [.superAdmin, .customer]

def safeMethods : List String := ["GET", "HEAD", "OPTIONS"]

def suspendedError : AppError :=
  .forbidden "This company has been suspended by the platform. Contact support for details."

def requireActiveCompany (req : Request) (tenants : Table Tenant.companyId) :
    Except AppError Unit :=
  if req.method ∈ safeMethods then .ok ()
  else
    match (req.user.bind SubscriptionGuard.AuthUser.companyId).filter fun companyId =>
        companyId ≠ "" with
    | none => .ok ()
    | some companyId =>
      if req.user.any fun user => user.role ∈ exemptRoles then .ok ()
      else if (tenants.find? companyId).any fun company => company.status = .suspended then
        .error suspendedError
      else .ok ()

end CompanyStatusGuard

def insufficientPrivileges : AppError :=
  .forbidden "Forbidden: Insufficient privileges for action"

def requireRole (roles : List Role) (req : SubscriptionGuard.Request) : Except AppError Unit :=
  if req.user.any fun user => user.role ∈ roles then .ok () else .error insufficientPrivileges

namespace ShopStep

/-- The method of the route. No route leads to the deletion of a variant. -/
def method : ShopStep → String
  | createProduct _ _ _ | createProductsBulk _ _ _ => "POST"
  | request (.createInstallmentPlan _ _ _ _) => "POST"
  | request (.updateInstallmentPlan _ _ _) | request (.deactivateInstallmentPlan _ _ _) => "PATCH"
  | request (.catalogue (.addVariant _ _ _))
  | request (.catalogue (.bulkCreateVariants _ _ _ _)) => "POST"
  | request (.catalogue (.updateVariant _ _ _)) | request (.catalogue (.updateVariantStock _ _ _))
  | request (.catalogue (.deactivateVariant _ _ _))
  | request (.catalogue (.updateProduct _ _ _)) => "PATCH"
  | request (.catalogue (.removeVariant _ _)) | request (.catalogue (.deleteProduct _ _)) =>
      "DELETE"

def httpRequest (e : ShopStep) : SubscriptionGuard.Request where
  method := e.method
  user := e.caller.role.map fun role => ⟨e.caller.companyId, role⟩

end ShopStep

structure TenancyState where
  db : Database
  tenants : Table Tenant.companyId := Table.empty

inductive TenancyStep
  | shop (e : ShopStep)
  | setTenantStatus (companyId : String) (data : SetTenantStatusInput) (now : DateTime)

namespace TenancyStep

/-- The guards of the routes of products and variants, in their order -/
def guards (s : TenancyState) (req : SubscriptionGuard.Request) : Except AppError Unit := do
  SubscriptionGuard.requireActiveSubscription req s.db
  CompanyStatusGuard.requireActiveCompany req s.tenants
  requireRole [.company, .admin, .superAdmin] req

def shopResult (s : TenancyState) (e : ShopStep) : Except AppError Database := do
  guards s e.httpRequest
  e.result s.db

def apply (s : TenancyState) : TenancyStep → TenancyState
  | shop e => { s with db := committed s.db id (shopResult s e) }
  | setTenantStatus companyId data now =>
      match TenantManagementService.setTenantStatus companyId data now s.tenants with
      | .ok tenants => { s with tenants }
      | .error _ => s

/-- Nothing is asked for by the platform's operator but the suspension of tenants, or what
concerns other tenants. -/
def LeavesSuspended (companyId : String) : TenancyStep → Prop
  | shop e => e.caller.role ≠ some .superAdmin
  | setTenantStatus id data _ => id = companyId → data.status = .suspended

end TenancyStep

/-- The time, the reason and the author of a suspension are recorded exactly while it lasts. -/
structure Tenant.Recorded (t : Tenant) : Prop where
  suspended : t.status = .suspended → t.suspendedAt.isSome = true ∧
    (∃ reason ∈ t.suspendedReason, reason ≠ "") ∧ t.suspendedById.isSome = true
  active : t.status = .active →
    t.suspendedAt = none ∧ t.suspendedReason = none ∧ t.suspendedById = none

namespace TenancyState

def Recorded (s : TenancyState) : Prop := ∀ t ∈ s.tenants.rows, t.Recorded

def Suspended (companyId : String) (s : TenancyState) : Prop :=
  ∃ t, s.tenants.find? companyId = some t ∧ t.status = .suspended

end TenancyState

section guards
variable {companyId : String} {s : TenancyState} {tenants tenants' : Table Tenant.companyId}

namespace TenantManagementService
variable {data : SetTenantStatusInput} {now : DateTime}

theorem setTenantStatus_eq_ok (h : setTenantStatus companyId data now tenants = .ok tenants') :
    (data.status = .suspended → ∃ reason ∈ data.reason, reason ≠ "") ∧
      tenants' =
        tenants.update companyId (withStatus data now) (withStatus_companyId data now) := by
  rw [setTenantStatus] at h
  split at h
  · cases h
  · split at h
    · cases h
    · rename_i hreason
      cases h
      refine ⟨fun hsuspended => ?_, rfl⟩
      have hsome : (data.reason.filter fun reason => reason ≠ "").isNone ≠ true :=
        fun hnone => hreason ⟨hsuspended, hnone⟩
      obtain ⟨reason, hfilter⟩ := Option.isSome_iff_exists.mp
        (Option.isSome_iff_ne_none.mpr fun hnone => hsome (Option.isNone_iff_eq_none.mpr hnone))
      obtain ⟨hmem, hne⟩ := Option.filter_eq_some_iff.mp hfilter
      exact ⟨reason, hmem, of_decide_eq_true hne⟩

theorem recorded_withStatus (hreason : data.status = .suspended → ∃ reason ∈ data.reason,
    reason ≠ "") (t : Tenant) : (withStatus data now t).Recorded := by
  constructor
  · intro (hsuspended : data.status = .suspended)
    rw [withStatus, if_pos hsuspended, if_pos hsuspended, if_pos hsuspended]
    exact ⟨rfl, hreason hsuspended, rfl⟩
  · intro (hactive : data.status = .active)
    have hnot : ¬ data.status = .suspended := by simp [hactive]
    rw [withStatus, if_neg hnot, if_neg hnot, if_neg hnot]
    exact ⟨rfl, rfl, rfl⟩

end TenantManagementService

theorem requireActiveSubscription_cases (req : SubscriptionGuard.Request) (db : Database) :
    SubscriptionGuard.requireActiveSubscription req db = .ok () ∨
      SubscriptionGuard.requireActiveSubscription req db =
        .error SubscriptionGuard.restrictedError := by
  rw [SubscriptionGuard.requireActiveSubscription]
  split
  · exact .inl rfl
  · split
    · exact .inl rfl
    · split
      · exact .inl rfl
      · split
        · exact .inr rfl
        · exact .inl rfl

theorem requireActiveCompany_cases (req : SubscriptionGuard.Request)
    (tenants : Table Tenant.companyId) :
    CompanyStatusGuard.requireActiveCompany req tenants = .ok () ∨
      CompanyStatusGuard.requireActiveCompany req tenants =
        .error CompanyStatusGuard.suspendedError := by
  rw [CompanyStatusGuard.requireActiveCompany]
  split
  · exact .inl rfl
  · split
    · exact .inl rfl
    · split
      · exact .inl rfl
      · split
        · exact .inr rfl
        · exact .inl rfl

theorem requireActiveCompany_suspended (hid : companyId ≠ "") (hs : s.Suspended companyId)
    {req : SubscriptionGuard.Request} (hmethod : req.method ∉ CompanyStatusGuard.safeMethods)
    {role : Role} (huser : req.user = some ⟨some companyId, role⟩)
    (hrole : role ∉ CompanyStatusGuard.exemptRoles) :
    CompanyStatusGuard.requireActiveCompany req s.tenants =
      .error CompanyStatusGuard.suspendedError := by
  obtain ⟨t, ht, hsuspended⟩ := hs
  rw [CompanyStatusGuard.requireActiveCompany, if_neg hmethod, huser, Option.bind_some,
    Option.filter_some, if_pos (decide_eq_true hid)]
  simp [hrole, ht, hsuspended]

theorem ShopStep.method_writes (e : ShopStep) : e.method ∉ CompanyStatusGuard.safeMethods := by
  cases e with
  | request r =>
    cases r with
    | catalogue e => cases e <;> simp [method, CompanyStatusGuard.safeMethods]
    | _ => simp [method, CompanyStatusGuard.safeMethods]
  | _ => simp [method, CompanyStatusGuard.safeMethods]

namespace TenancyStep

/-- Of the members of a suspended company, those the guard lets pass lack the role. -/
theorem guards_suspended (hid : companyId ≠ "") (hs : s.Suspended companyId) {e : ShopStep}
    (hcompany : e.caller.companyId = some companyId)
    (hoperator : e.caller.role ≠ some .superAdmin) :
    ∃ message, guards s e.httpRequest = .error (.forbidden message) := by
  rw [guards]
  rcases requireActiveSubscription_cases e.httpRequest s.db with hopen | hrestricted
  · rw [hopen]
    have hforbidden {role : Role} (hrole : e.caller.role = some role)
        (hnot : role ∉ CompanyStatusGuard.exemptRoles) :
        CompanyStatusGuard.requireActiveCompany e.httpRequest s.tenants =
          .error CompanyStatusGuard.suspendedError := by
      have huser : e.httpRequest.user = some ⟨some companyId, role⟩ := by
        rw [ShopStep.httpRequest, hrole, hcompany, Option.map_some]
      exact requireActiveCompany_suspended hid hs e.method_writes huser hnot
    have hlacking (hrole : e.caller.role = none ∨ e.caller.role = some .customer) :
        requireRole [.company, .admin, .superAdmin] e.httpRequest =
          .error insufficientPrivileges := by
      rw [requireRole, ShopStep.httpRequest]
      rcases hrole with hrole | hrole <;> simp [hrole]
    have hlacks : e.caller.role = none ∨ e.caller.role = some .customer →
        ∃ message, (CompanyStatusGuard.requireActiveCompany e.httpRequest s.tenants >>= fun _ =>
          requireRole [.company, .admin, .superAdmin] e.httpRequest) =
            .error (.forbidden message) := by
      intro hrole
      rw [hlacking hrole]
      rcases requireActiveCompany_cases e.httpRequest s.tenants with hopen | hclosed
      · rw [hopen]
        exact ⟨_, rfl⟩
      · rw [hclosed]
        exact ⟨_, rfl⟩
    have hstopped {role : Role} (hrole : e.caller.role = some role)
        (hnot : role ∉ CompanyStatusGuard.exemptRoles) :
        ∃ message, (CompanyStatusGuard.requireActiveCompany e.httpRequest s.tenants >>= fun _ =>
          requireRole [.company, .admin, .superAdmin] e.httpRequest) =
            .error (.forbidden message) := by
      rw [hforbidden hrole hnot]
      exact ⟨_, rfl⟩
    cases hrole : e.caller.role with
    | none => exact hlacks (.inl hrole)
    | some role =>
      cases role with
      | superAdmin => exact absurd hrole hoperator
      | customer => exact hlacks (.inr hrole)
      | admin => exact hstopped hrole (by simp [CompanyStatusGuard.exemptRoles])
      | company => exact hstopped hrole (by simp [CompanyStatusGuard.exemptRoles])
      | marketer => exact hstopped hrole (by simp [CompanyStatusGuard.exemptRoles])
  · rw [hrestricted]
    exact ⟨_, rfl⟩

theorem recorded_apply (hs : s.Recorded) (e : TenancyStep) : (e.apply s).Recorded := by
  cases e with
  | shop e => exact hs
  | setTenantStatus id data now =>
    rw [apply]
    split
    · rename_i tenants hset
      obtain ⟨hreason, rfl⟩ := TenantManagementService.setTenantStatus_eq_ok hset
      intro t ht
      have hrow : t ∈ (s.tenants.update id (TenantManagementService.withStatus data now)
        (TenantManagementService.withStatus_companyId data now)).rows := ht
      rcases Table.mem_update hrow with ht | ⟨old, -, -, rfl⟩
      · exact hs t ht
      · exact TenantManagementService.recorded_withStatus hreason old
    · exact hs

theorem suspended_apply (hs : s.Suspended companyId) {e : TenancyStep}
    (he : e.LeavesSuspended companyId) : (e.apply s).Suspended companyId := by
  cases e with
  | shop e => exact hs
  | setTenantStatus id data now =>
    rw [apply]
    split
    · rename_i tenants hset
      obtain ⟨-, rfl⟩ := TenantManagementService.setTenantStatus_eq_ok hset
      obtain ⟨t, ht, hsuspended⟩ := hs
      have hfind := Table.find?_update s.tenants id companyId
        (TenantManagementService.withStatus data now)
        (TenantManagementService.withStatus_companyId data now)
      by_cases hid : companyId = id
      · rw [if_pos hid, ht] at hfind
        exact ⟨_, hfind, he hid.symm⟩
      · rw [if_neg hid, ht] at hfind
        exact ⟨t, hfind, hsuspended⟩
    · exact hs

/-- A shop does not change while its company is suspended. -/
theorem sameShop_apply (hid : companyId ≠ "") (hs : s.Suspended companyId) {e : TenancyStep}
    (he : e.LeavesSuspended companyId) : SameShop companyId s.db (e.apply s).db := by
  cases e with
  | shop e =>
    refine committed_rule (SameShop.refl companyId s.db) fun db' h => ?_
    obtain ⟨u, hguards, hresult⟩ := bind_eq_ok.mp h
    by_cases hcompany : e.caller.companyId = some companyId
    · obtain ⟨message, hrefused⟩ := guards_suspended hid hs hcompany he
      rw [hrefused] at hguards
      cases hguards
    · have hsame : SameShop companyId s.db (e.apply s.db) := ShopStep.sameShop ⟨he, hcompany⟩
      rw [ShopStep.apply, hresult] at hsame
      exact hsame
  | setTenantStatus id data now =>
    have hdb : (apply s (setTenantStatus id data now)).db = s.db := by
      rw [apply]
      split <;> rfl
    rw [hdb]
    exact SameShop.refl companyId s.db

end TenancyStep

end guards

/-- The street with both its tenants -/
def twoTenants : TenancyState where
  db := street
  tenants := ⟨[{ companyId := "shop", name := "Shop" },
    { companyId := "rival", name := "Rival" }], by decide⟩

theorem twoTenants_recorded : twoTenants.Recorded := by
  intro t ht
  simp only [twoTenants, List.mem_cons, List.not_mem_nil, or_false] at ht
  rcases ht with rfl | rfl <;> exact ⟨by simp, by simp⟩

/-- A suspension without a reason, and one with -/
def suspension : List TenancyStep :=
  [.setTenantStatus "shop" { status := .suspended, performedById := "root" } 5,
    .setTenantStatus "shop" { status := .suspended, reason := some "chargeback fraud"
                              performedById := "root" } 6]

/-- The shop and its rival price the kettle, and the rival brings in his own. -/
def priceWar : List TenancyStep :=
  [.shop (.request (.catalogue (.updateProduct "kettle" { price := some 1 } shopkeeper)))] ++
    rivalry.map .shop

end InstalFlow
