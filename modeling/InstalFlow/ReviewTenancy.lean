import InstalFlow.KycApplications

/-!
# Tenants and reviews

An application belongs to the company its session was registered for. What a
successful review says about the company of its reviewer depends on the role:
the company of an ADMIN is never looked at, and that of a COMPANY user only
compared with the session's, which may both be missing.
-/

namespace InstalFlow
open Relational

inductive ReviewCall
  | approve (applicationId reviewerId : String)
  | reject (applicationId reviewerId reason : String)

namespace ReviewCall

def applicationId : ReviewCall → String
  | approve id _ | reject id _ _ => id

def reviewerId : ReviewCall → String
  | approve _ id | reject _ id _ => id

def succeeds (m : KycMoment) (db : Database) : ReviewCall → Bool
  | approve applicationId reviewerId =>
      (KycService.approveApplication applicationId reviewerId m db).isOk
  | reject applicationId reviewerId reason =>
      (KycService.rejectApplication applicationId reviewerId reason m db).isOk

end ReviewCall

/-- The session that a registration opened for the application. -/
def applicationSession (applicationId : String) (db : Database) : Option OnboardingSession :=
  (db.kycApplications.find? applicationId).bind fun a => KycService.sessionOf a db

/-- The session's company, or that of its marketer. -/
def registeredCompany (applicationId : String) (db : Database) : Option String :=
  let session := applicationSession applicationId db
  (session.bind OnboardingSession.companyId).or
    ((KycService.marketerOf session db).bind User.companyId)

namespace ReviewCall

def InTenant (db : Database) (call : ReviewCall) : Prop :=
  ∀ reviewer ∈ db.users.find? call.reviewerId, reviewer.role ≠ .superAdmin →
    ∃ company, registeredCompany call.applicationId db = some company ∧
      reviewer.companyId = some company

/-- A COMPANY user reviews a session that has a company; a MARKETER one that has
none or the marketer's own; an ADMIN one of the admin's company or, when it has
none, of a marketer of that company. -/
def KnowsCompany (db : Database) (call : ReviewCall) : Prop :=
  ∀ reviewer ∈ db.users.find? call.reviewerId,
    let session := applicationSession call.applicationId db
    let companyId := session.bind OnboardingSession.companyId
    (reviewer.role = .company → companyId.isSome) ∧
    (reviewer.role = .marketer →
      reviewer.companyId.isSome ∧ (companyId = none ∨ companyId = reviewer.companyId)) ∧
    (reviewer.role = .admin → reviewer.companyId.isSome ∧ (companyId = reviewer.companyId ∨
      companyId = none ∧
        (KycService.marketerOf session db).bind User.companyId = reviewer.companyId))

instance (db : Database) (call : ReviewCall) : Decidable (call.InTenant db) :=
  inferInstanceAs (Decidable (∀ reviewer ∈ db.users.find? call.reviewerId, _ → _))

variable {m : KycMoment} {db : Database} {call : ReviewCall}

theorem role_of_succeeds (h : call.succeeds m db = true) {reviewer : User}
    (hreviewer : db.users.find? call.reviewerId = some reviewer) :
    let session := applicationSession call.applicationId db
    reviewer.role = .admin ∨ reviewer.role = .superAdmin ∨
    (reviewer.role = .company ∧ session.bind OnboardingSession.companyId = reviewer.companyId) ∨
    (reviewer.role = .marketer ∧ KycService.marketerOf session db = some reviewer) := by
  cases call with
  | reject applicationId reviewerId reason =>
    obtain ⟨db', h⟩ := isOk_iff.mp h
    obtain ⟨admin, loaded, hadmin, hrole, -⟩ := KycService.rejectApplication_eq_ok h
    have he := hadmin.symm.trans hreviewer
    cases he
    rcases hrole with hrole | hrole
    · exact .inl hrole
    · exact .inr (.inl hrole)
  | approve applicationId reviewerId =>
    obtain ⟨result, h⟩ := isOk_iff.mp h
    obtain ⟨r, signature, hloaded, hauthorize, -⟩ := KycService.approveApplication_eq_ok h
    have hr := hloaded.reviewer.symm.trans hreviewer
    cases hr
    have hsession : applicationSession applicationId db = some r.session := by
      rw [applicationSession, hloaded.application]
      exact hloaded.session
    simp only [ReviewCall.applicationId, hsession, Option.bind_some]
    rw [KycService.authorize] at hauthorize
    cases hrole : r.reviewer.role with
    | admin => exact .inl rfl
    | superAdmin => exact .inr (.inl rfl)
    | customer =>
      rw [hrole] at hauthorize
      cases hauthorize
    | company =>
      simp only [hrole] at hauthorize
      split at hauthorize
      · cases hauthorize
      · rename_i hcompany
        exact .inr (.inr (.inl ⟨rfl, not_not.mp hcompany⟩))
    | marketer =>
      simp only [hrole] at hauthorize
      split at hauthorize
      · cases hauthorize
      · rename_i hmarketer
        refine .inr (.inr (.inr ⟨rfl, ?_⟩))
        rw [KycService.marketerOf, Option.bind_some, not_not.mp hmarketer, Option.bind_some,
          Table.find?_key hloaded.reviewer]
        exact hloaded.reviewer

theorem inTenant_iff_of_succeeds (h : call.succeeds m db = true) :
    call.InTenant db ↔ call.KnowsCompany db := by
  refine forall₂_congr fun reviewer hreviewer => ?_
  have hrole := role_of_succeeds h hreviewer
  simp only [registeredCompany] at hrole ⊢
  generalize applicationSession call.applicationId db = session at hrole ⊢
  generalize session.bind OnboardingSession.companyId = companyId at hrole ⊢
  rcases hrole with hrole | hrole | ⟨hrole, hcompany⟩ | ⟨hrole, hmarketer⟩
  · -- an ADMIN: nothing is known of the two companies
    generalize (KycService.marketerOf session db).bind User.companyId = other
    cases companyId <;> cases reviewer.companyId <;> simp [hrole, eq_comm]
  · simp [hrole]
  · cases companyId <;> simp [hrole, ← hcompany]
  · rw [hmarketer, Option.bind_some]
    cases companyId <;> cases reviewer.companyId <;> simp [hrole, eq_comm]

end ReviewCall

/-- Successful reviews stay inside the tenant exactly when the reviewer and the
session have companies to compare. -/
theorem reviews_in_tenant_iff (call : ReviewCall) (m : KycMoment) (db : Database) :
    (call.succeeds m db → call.InTenant db) ↔ (call.succeeds m db → call.KnowsCompany db) :=
  imp_congr_right fun h => ReviewCall.inTenant_iff_of_succeeds h

/-- An application by a company's code, and an ADMIN of another company. -/
def companyCodeApplication : Database where
  users := ⟨[{ userId := "other", role := .admin, companyId := some "b" },
    { userId := "staff", role := .company, companyId := some "a" }], by decide⟩
  onboardingSessions := ⟨[{ sessionId := "s", name := "Ada", email := "ada@x.y", passwordHash := "h"
                            companyId := some "a", status := .kycSubmitted, expiresAt := 9 }],
    by decide⟩
  kycApplications := ⟨[{ kycApplicationId := "k", onboardingSessionId := some "s"
                         productId := "p" }], by decide⟩
  financingContracts := ⟨[{ contractId := "c", userId := none, productId := "p"
                            kycApplicationId := "k", approvedDurationMonths := 2
                            totalFinanced := 100, status := .pendingActivation }], by decide⟩

def reviewMoment : KycMoment where
  now := 0
  userId := "u"
  installmentId := fun n => toString n

/-- The foreign ADMIN may approve the application, and may reject it. -/
theorem foreign_admin_reviews :
    (ReviewCall.approve "k" "other").succeeds reviewMoment companyCodeApplication = true ∧
    (ReviewCall.reject "k" "other" "late").succeeds reviewMoment companyCodeApplication = true ∧
    ¬ (ReviewCall.approve "k" "other").InTenant companyCodeApplication ∧
    ¬ (ReviewCall.reject "k" "other" "late").InTenant companyCodeApplication := by
  decide +kernel

end InstalFlow
