import InstalFlow.PaymentIntentService
import InstalFlow.Transition.Run

/-!
# Registration

How marketers and customers come to be. A customer registers into an onboarding
session, by a marketer's referral code, by a company's public code or through
company staff; the user is created from the session when the application is
approved. The token that is issued for a session stands for the session.
-/

namespace InstalFlow
open Relational

/-- `email.toLowerCase().trim()` -/
def normalizeEmail (email : String) : String :=
  let trimStart := List.dropWhile isSpace
  String.ofList (trimStart (trimStart (email.toList.map Char.toLower)).reverse).reverse

namespace AuthService

/-- A user whose e-mail is new, which a unique index enforces. -/
def createUser (user : User) (conflict : AppError) (db : Database) :
    Except AppError (User × Database) :=
  if db.users.rows.any (fun u => u.email = user.email) then .error conflict
  else
    match createRow db.users user ["userId"] with
    | .error err => .error err
    | .ok users => .ok (user, { db with users })

/-- A customer account, perhaps with a referrer. -/
def register (userId name email : String) (referredByMarketerId : Option String) (db : Database) :
    Except AppError (User × Database) :=
  if db.users.rows.any (fun u => u.email = email) then
    .error (.conflict "Email is already in use")
  else
    let isMarketer (userId : String) := (db.users.find? userId).any (fun u => u.role = .marketer)
    if !referredByMarketerId.all isMarketer then
      .error (.badRequest "Invalid referral: Marketer not found.")
    else createUser { userId, name := some name, email, role := .customer, referredByMarketerId }
      (.uniqueViolation ["email"]) db

def createMarketer (companyId creatorId userId name email referralCode : String) (db : Database) :
    Except AppError (User × Database) :=
  createUser
    { userId, name := some name, email, role := .marketer, companyId := some companyId
      createdById := some creatorId, referralCode := some referralCode }
    (.conflict "Marketer email already in use") db

end AuthService

structure Registration where
  name : String
  email : String
  password : String
  referredByCode : Option String := none
  companyCode : Option String := none

namespace KycService

def expiryHours : ℤ := 24

def resumable (email : String) (now : DateTime) (s : OnboardingSession) : Bool :=
  s.email = email ∧ (s.status = .pendingKyc ∨ s.status = .kycSubmitted) ∧ now < s.expiresAt

/-- A session that is still open is resumed as it is, with a later expiry. -/
def createOrResumeOnboardingSession (params : OnboardingSession) (now : DateTime) (db : Database) :
    Except AppError (OnboardingSession × Database) :=
  let expiresAt := now + expiryHours * 60 * 60 * 1000
  match db.onboardingSessions.rows.find? (resumable params.email now) with
  | some activeSession =>
    let onboardingSessions := db.onboardingSessions.update activeSession.sessionId
      (fun s => { s with expiresAt })
    .ok ({ activeSession with expiresAt }, { db with onboardingSessions })
  | none =>
    let session := { params with status := .pendingKyc, expiresAt }
    match createRow db.onboardingSessions session ["sessionId"] with
    | .error err => .error err
    | .ok onboardingSessions => .ok (session, { db with onboardingSessions })

/-- The referrer or the company of a registration, by its code. -/
def findReferrer (data : Registration) (db : Database) :
    Except AppError (Option String × Option String) :=
  match data.referredByCode with
  | some code =>
    match db.users.rows.find? (fun u => u.referralCode = some code ∧ u.role = .marketer) with
    | none => .error (.badRequest "Invalid referral code: Marketer not found.")
    | some marketer => .ok (some marketer.userId, none)
  | none =>
    match db.companies.rows.find? (fun c =>
        c.publicSignupCode.isSome ∧ c.publicSignupCode = data.companyCode) with
    | none => .error (.badRequest "Invalid company invite code.")
    | some company => .ok (none, some company.companyId)

section register
variable (bcryptHash : String → String)

def registerViaReferral (data : Registration) (sessionId : String) (now : DateTime)
    (db : Database) : Except AppError (OnboardingSession × Database) :=
  let email := normalizeEmail data.email
  match findReferrer data db with
  | .error err => .error err
  | .ok (marketerId, companyId) =>
    if db.users.rows.any (fun u => u.email = email) then
      .error (.conflict "Email is already in use.")
    else createOrResumeOnboardingSession
      { sessionId, name := data.name, email, passwordHash := bcryptHash data.password
        marketerId, companyId, expiresAt := now } now db

/-- An ADMIN who registers a customer is the customer's referrer, a COMPANY is not. -/
def registerDirect (reviewerId : String) (data : Registration) (sessionId : String)
    (now : DateTime) (db : Database) : Except AppError (OnboardingSession × Database) :=
  match (db.users.find? reviewerId).filter (fun u => u.companyId.isSome) with
  | none => .error (.unauthorized
      "Only company staff with an associated company can register a customer directly.")
  | some reviewer =>
    if reviewer.role ≠ .company ∧ reviewer.role ≠ .admin then
      .error (.unauthorized "Only COMPANY or ADMIN users can register a customer directly.")
    else
      let email := normalizeEmail data.email
      if db.users.rows.any (fun u => u.email = email) then
        .error (.conflict "Email is already in use.")
      else createOrResumeOnboardingSession
        { sessionId, name := data.name, email, passwordHash := bcryptHash data.password
          marketerId := if reviewer.role = .admin then some reviewer.userId else none
          companyId := reviewer.companyId, expiresAt := now } now db

end register

/-- The user that the approval of an application creates from its session. -/
def newUser (session : OnboardingSession) (userId : String) : User :=
  { userId, name := some session.name, email := session.email, password := session.passwordHash
    role := .customer, referredByMarketerId := session.marketerId, companyId := session.companyId }

/-- The statements of an approval that create the customer and close the session. -/
def createCustomer (sessionId userId : String) (db : Database) : Except AppError Database :=
  match db.onboardingSessions.find? sessionId with
  | none => .error (.notFound "Onboarding session not found for application.")
  | some session =>
    match AuthService.createUser (newUser session userId) (.uniqueViolation ["email"]) db with
    | .error err => .error err
    | .ok (_, db) =>
      let onboardingSessions := db.onboardingSessions.update sessionId
        (fun s => { s with status := .approved })
      .ok { db with onboardingSessions }

end KycService

inductive RegistrationStep
  | createMarketer (companyId creatorId userId name email referralCode : String)
  | register (userId name email : String) (referredByMarketerId : Option String)
  | registerViaReferral (data : Registration) (sessionId : String) (now : DateTime)
  | registerDirect (reviewerId : String) (data : Registration) (sessionId : String) (now : DateTime)
  | createCustomer (sessionId userId : String)

def RegistrationStep.apply (bcryptHash : String → String) (db : Database) :
    RegistrationStep → Database
  | createMarketer companyId creatorId userId name email referralCode => committed db Prod.snd
      (AuthService.createMarketer companyId creatorId userId name email referralCode db)
  | register userId name email referredByMarketerId => committed db Prod.snd
      (AuthService.register userId name email referredByMarketerId db)
  | registerViaReferral data sessionId now => committed db Prod.snd
      (KycService.registerViaReferral bcryptHash data sessionId now db)
  | registerDirect reviewerId data sessionId now => committed db Prod.snd
      (KycService.registerDirect bcryptHash reviewerId data sessionId now db)
  | createCustomer sessionId userId => committed db id
      (KycService.createCustomer sessionId userId db)

/-- A marketer's referral leaves the company empty, and an admin's registration
gives the admin's. -/
def Database.Referral (db : Database) (marketerId companyId : Option String) : Prop :=
  ∀ m, marketerId = some m → ∃ u, db.users.find? m = some u ∧
    (u.role = .marketer ∧ companyId = none ∨ u.role = .admin ∧ companyId = u.companyId)

structure Database.Registered (db : Database) : Prop where
  users : ∀ u ∈ db.users.rows, db.Referral u.referredByMarketerId u.companyId
  sessions : ∀ s ∈ db.onboardingSessions.rows, db.Referral s.marketerId s.companyId

namespace Database
variable {db db' : Database}

theorem Referral.mono (h : ∀ id u, db.users.find? id = some u → db'.users.find? id = some u)
    {marketerId companyId : Option String} (hr : db.Referral marketerId companyId) :
    db'.Referral marketerId companyId := by
  intro m hm
  obtain ⟨u, hu, hcases⟩ := hr m hm
  exact ⟨u, h m u hu, hcases⟩

theorem referral_none (db : Database) (companyId : Option String) : db.Referral none companyId :=
  fun _ hm => nomatch hm

theorem Registered.createUser (h : db.Registered) {user user' : User} {conflict : AppError}
    (hcreate : AuthService.createUser user conflict db = .ok (user', db'))
    (huser : db.Referral user.referredByMarketerId user.companyId) : db'.Registered := by
  rw [AuthService.createUser] at hcreate
  split at hcreate
  · cases hcreate
  · split at hcreate
    · cases hcreate
    · rename_i users husers
      cases hcreate
      have hcreated := createRow_eq_ok.mp husers
      obtain ⟨hnone, hrows⟩ := Table.create_eq_some hcreated
      have hkept : ∀ id u, db.users.find? id = some u → users.find? id = some u := by
        intro id u hu
        rw [Table.find?_create hcreated, if_neg, hu]
        rintro rfl
        rw [hnone] at hu
        cases hu
      constructor
      · intro u hu
        rw [hrows, List.mem_append, List.mem_singleton] at hu
        rcases hu with hu | rfl
        · exact (h.users u hu).mono hkept
        · exact huser.mono hkept
      · exact fun s hs => (h.sessions s hs).mono hkept

theorem Registered.updateSession (h : db.Registered) (sessionId : String)
    {f : OnboardingSession → OnboardingSession} (hf : ∀ s, (f s).sessionId = s.sessionId)
    (hsame : ∀ s, (f s).marketerId = s.marketerId ∧ (f s).companyId = s.companyId) :
    Registered { db with onboardingSessions := db.onboardingSessions.update sessionId f hf } := by
  refine ⟨h.users, fun s hs => ?_⟩
  have hs : s ∈ (db.onboardingSessions.update sessionId f hf).rows := hs
  rcases Table.mem_update hs with hs | ⟨t, ht, rfl⟩
  · exact h.sessions s hs
  · rw [(hsame t).1, (hsame t).2]
    exact h.sessions t ht

theorem Registered.createOrResume (h : db.Registered) {params session : OnboardingSession}
    {now : DateTime}
    (hcreate : KycService.createOrResumeOnboardingSession params now db = .ok (session, db'))
    (hparams : db.Referral params.marketerId params.companyId) : db'.Registered := by
  rw [KycService.createOrResumeOnboardingSession] at hcreate
  simp only at hcreate
  split at hcreate
  · rename_i active hactive
    cases hcreate
    exact h.updateSession active.sessionId
      (f := fun s => { s with expiresAt := now + KycService.expiryHours * 60 * 60 * 1000 })
      (fun _ => rfl) fun _ => ⟨rfl, rfl⟩
  · split at hcreate
    · cases hcreate
    · rename_i sessions hsessions
      cases hcreate
      refine ⟨h.users, fun s hs => ?_⟩
      rw [(Table.create_eq_some (createRow_eq_ok.mp hsessions)).2, List.mem_append,
        List.mem_singleton] at hs
      rcases hs with hs | rfl
      · exact h.sessions s hs
      · exact hparams

theorem findReferrer_referral {data : Registration} {marketerId companyId : Option String}
    (h : KycService.findReferrer data db = .ok (marketerId, companyId)) :
    db.Referral marketerId companyId := by
  rw [KycService.findReferrer] at h
  split at h
  · split at h
    · cases h
    · rename_i marketer hmarketer
      cases h
      have hrole := List.find?_some hmarketer
      simp only [decide_eq_true_eq] at hrole
      intro m hm
      cases hm
      exact ⟨marketer, Table.find?_of_mem (List.mem_of_find?_eq_some hmarketer),
        .inl ⟨hrole.2, rfl⟩⟩
  · split at h
    · cases h
    · cases h
      exact referral_none db _

/-- No registration gives a customer with a marketer a company. -/
theorem Registered.apply (bcryptHash : String → String) (h : db.Registered)
    (step : RegistrationStep) : (step.apply bcryptHash db).Registered := by
  cases step with
  | createMarketer companyId creatorId userId name email referralCode =>
    exact committed_rule h fun _ hcreate => h.createUser hcreate (referral_none db _)
  | register userId name email referredByMarketerId =>
    refine committed_rule h fun res hregister => ?_
    rw [AuthService.register] at hregister
    split at hregister
    · cases hregister
    · simp only at hregister
      split at hregister
      · cases hregister
      · rename_i hmarketer
        refine h.createUser hregister ?_
        intro m hm
        cases hm
        simp only [Option.all_some, Bool.not_eq_true', Bool.not_eq_false, Option.any_eq_true_iff_get,
          decide_eq_true_eq] at hmarketer
        obtain ⟨hsome, hrole⟩ := hmarketer
        exact ⟨_, Option.eq_some_of_isSome hsome, .inl ⟨hrole, rfl⟩⟩
  | registerViaReferral data sessionId now =>
    refine committed_rule h fun res hregister => ?_
    rw [KycService.registerViaReferral] at hregister
    split at hregister
    · cases hregister
    · rename_i marketerId companyId hreferrer
      split at hregister
      · cases hregister
      · exact h.createOrResume hregister (findReferrer_referral hreferrer)
  | registerDirect reviewerId data sessionId now =>
    refine committed_rule h fun res hregister => ?_
    rw [KycService.registerDirect] at hregister
    split at hregister
    · cases hregister
    · rename_i reviewer hreviewer
      have hfind := (Option.filter_eq_some_iff.mp hreviewer).1
      split at hregister
      · cases hregister
      · simp only at hregister
        split at hregister
        · cases hregister
        · refine h.createOrResume hregister ?_
          by_cases hadmin : reviewer.role = .admin
          · rw [if_pos hadmin]
            intro m hm
            cases hm
            rw [← Table.find?_key hfind] at hfind
            exact ⟨reviewer, hfind, .inr ⟨hadmin, rfl⟩⟩
          · rw [if_neg hadmin]
            exact referral_none db _
  | createCustomer sessionId userId =>
    refine committed_rule h fun res hcreate => ?_
    rw [KycService.createCustomer] at hcreate
    split at hcreate
    · cases hcreate
    · rename_i session hsession
      split at hcreate
      · cases hcreate
      · rename_i user db₁ huser
        cases hcreate
        have hregistered := h.createUser huser (h.sessions session (Table.mem_of_find? hsession))
        exact hregistered.updateSession sessionId (f := fun s => { s with status := .approved })
          (fun _ => rfl) fun _ => ⟨rfl, rfl⟩

theorem Registered.run (bcryptHash : String → String) (h : db.Registered)
    (steps : List RegistrationStep) :
    (Transition.run (RegistrationStep.apply bcryptHash) db steps).Registered :=
  Transition.run_invariant (fun _ step hs => hs.apply bcryptHash step) h steps

end Database
end InstalFlow
