import InstalFlow.KycRecords
import InstalFlow.ReviewTenancy
import InstalFlow.SettlementGeneration

/-!
# The company of a customer

A customer's company is that of the session, set at registration: a marketer's
code leaves it empty, a company's code and company staff set it. Nothing later
compares it with the company whose product is financed, by which the customer's
payments are settled.
-/

namespace InstalFlow
open Relational Transition

inductive SalesStep
  | registerViaReferral (data : Registration) (sessionId : String) (now : DateTime)
  | registerDirect (reviewerId : String) (data : Registration) (sessionId : String) (now : DateTime)
  | submitApplication (storage : Storage) (sessionId : String) (params : SubmitApplication)
      (file : UploadedPdfFile) (m : KycMoment)
  | approveApplication (applicationId reviewerId : String) (m : KycMoment)

/-- The company whose product the contract of the application finances. -/
def financedCompany (applicationId : String) (db : Database) : Option String :=
  ((KycService.contractOf applicationId db).bind fun c => db.products.find? c.productId).bind
    Product.companyId

/-- The customer is of the company whose product is financed, and so is the
referring marketer. -/
def OfSeller (applicationId : String) (user : User) (db : Database) : Prop :=
  ∃ company ∈ user.companyId, financedCompany applicationId db = some company ∧
    ∀ marketer ∈ KycService.marketerOf (applicationSession applicationId db) db,
      marketer.companyId = some company

instance (applicationId : String) (user : User) (db : Database) :
    Decidable (OfSeller applicationId user db) :=
  inferInstanceAs (Decidable (∃ company ∈ user.companyId, _ ∧ _))

/-- The approval is the last one, which creates the customer. -/
def approves (applicationId reviewerId : String) (m : KycMoment) (db : Database) : Bool :=
  (KycService.approveApplication applicationId reviewerId m db).toOption.map Prod.fst =
    some .approved

theorem approves_iff {applicationId reviewerId : String} {m : KycMoment} {db : Database} :
    approves applicationId reviewerId m db = true ↔ ∃ db',
      KycService.approveApplication applicationId reviewerId m db = .ok (.approved, db') := by
  rw [approves, decide_eq_true_eq]
  cases KycService.approveApplication applicationId reviewerId m db with
  | error err => simp [Except.toOption]
  | ok result =>
    simp only [Except.toOption, Option.map_some, Option.some.injEq, Except.ok.injEq]
    exact ⟨fun h => ⟨result.2, Prod.ext h rfl⟩, fun h => by obtain ⟨db', rfl⟩ := h; rfl⟩

namespace SalesStep

def apply (bcryptHash : String → String) (db : Database) : SalesStep → Database
  | registerViaReferral data sessionId now => committed db Prod.snd
      (KycService.registerViaReferral bcryptHash data sessionId now db)
  | registerDirect reviewerId data sessionId now => committed db Prod.snd
      (KycService.registerDirect bcryptHash reviewerId data sessionId now db)
  | submitApplication storage sessionId params file m => committed db Prod.snd
      (KycService.submitApplication storage sessionId params file m db)
  | approveApplication applicationId reviewerId m => committed db Prod.snd
      (KycService.approveApplication applicationId reviewerId m db)

/-- A customer that the step creates is the seller's. -/
def SellsOwn (bcryptHash : String → String) (db : Database) : SalesStep → Prop
  | approveApplication applicationId reviewerId m =>
    approves applicationId reviewerId m db = true →
    ∀ user ∈ ((approveApplication applicationId reviewerId m).apply bcryptHash db).users.find?
      m.userId, OfSeller applicationId user db
  | _ => True

instance (bcryptHash : String → String) (db : Database) :
    (step : SalesStep) → Decidable (step.SellsOwn bcryptHash db)
  | registerViaReferral _ _ _ | registerDirect _ _ _ _ | submitApplication _ _ _ _ _ =>
    inferInstanceAs (Decidable True)
  | approveApplication applicationId _ _ =>
    inferInstanceAs (Decidable (_ → ∀ user ∈ _, OfSeller applicationId user db))

/-- In every later state in which the contract is this customer's, the PAID
installments without a settlement are settled for the seller. -/
def PaysSeller (bcryptHash : String → String) (db : Database) : SalesStep → Prop
  | approveApplication applicationId reviewerId m =>
    approves applicationId reviewerId m db = true →
    ∀ user ∈ ((approveApplication applicationId reviewerId m).apply bcryptHash db).users.find?
      m.userId,
    ∀ contract ∈ KycService.contractOf applicationId db,
    ∃ company ∈ financedCompany applicationId db, ∀ later : Database,
      later.users.find? user.userId = some user →
      (later.financingContracts.find? contract.contractId).bind FinancingContract.userId =
        some user.userId →
      ∀ i ∈ later.installments.rows, i.financingContractId = contract.contractId →
        MerchantSettlementService.unsettled later i = true →
        i ∈ MerchantSettlementService.eligibleInstallments company later ∧
          company ∈ MerchantSettlementService.pendingCompanyIds later
  | _ => True

/-- The application is not a MARKETER's referral, and it finances a product of the
company it was registered for. -/
def FinancesOwn (db : Database) : SalesStep → Prop
  | approveApplication applicationId reviewerId m =>
    approves applicationId reviewerId m db = true →
    (∀ marketer ∈ KycService.marketerOf (applicationSession applicationId db) db,
      marketer.role ≠ .marketer) ∧
    financedCompany applicationId db =
      (applicationSession applicationId db).bind OnboardingSession.companyId
  | _ => True

instance (db : Database) : (step : SalesStep) → Decidable (step.FinancesOwn db)
  | registerViaReferral _ _ _ | registerDirect _ _ _ _ | submitApplication _ _ _ _ _ =>
    inferInstanceAs (Decidable True)
  | approveApplication _ _ _ =>
    inferInstanceAs (Decidable (_ → (∀ marketer ∈ KycService.marketerOf _ _, _ ≠ _) ∧ _ = _))

end SalesStep

/-- Where the company of a session comes from. -/
structure Database.Sourced (db : Database) (s : OnboardingSession) : Prop where
  referral : db.Referral s.marketerId s.companyId
  coded : s.companyId = none →
    ∃ marketer, KycService.marketerOf (some s) db = some marketer ∧ marketer.role = .marketer

def Database.SessionsSourced (db : Database) : Prop :=
  ∀ s ∈ db.onboardingSessions.rows, db.Sourced s

namespace Database
variable {db db' : Database}

theorem Sourced.keeps (h : db.Keeps db') {s t : OnboardingSession} (hs : db.Sourced s)
    (hmarketer : t.marketerId = s.marketerId) (hcompany : t.companyId = s.companyId) :
    db'.Sourced t where
  referral := by
    rw [hmarketer, hcompany]
    exact hs.referral.mono h.users
  coded hnone := by
    obtain ⟨marketer, hfind, hrole⟩ := hs.coded (hcompany.symm.trans hnone)
    obtain ⟨id, hid, hfind⟩ := Option.bind_eq_some_iff.mp hfind
    have hid : s.marketerId = some id := hid
    refine ⟨marketer, ?_, hrole⟩
    rw [KycService.marketerOf, Option.bind_some, hmarketer, hid]
    exact h.users id marketer hfind

/-- Sessions that are kept or were opened for a known source. -/
theorem SessionsSourced.keeps (h : db.SessionsSourced) (hkeeps : db.Keeps db')
    (hrows : ∀ t ∈ db'.onboardingSessions.rows,
      (∃ s ∈ db.onboardingSessions.rows, t.origin = s.origin) ∨ db.Sourced t) :
    db'.SessionsSourced := by
  intro t ht
  rcases hrows t ht with ⟨s, hs, horigin⟩ | hsourced
  · exact (h s hs).keeps hkeeps (congrArg OnboardingSession.marketerId horigin :)
      (congrArg OnboardingSession.companyId horigin :)
  · exact hsourced.keeps hkeeps rfl rfl

theorem SessionsSourced.createOrResume (h : db.SessionsSourced) {params session : OnboardingSession}
    {now : DateTime} (hparams : db.Sourced params)
    (hcreate : KycService.createOrResumeOnboardingSession params now db = .ok (session, db')) :
    db'.SessionsSourced := by
  refine h.keeps (KycService.keeps_createOrResume hcreate) fun t ht => ?_
  obtain ⟨sessions, rfl, ⟨created, horigin, hcreated⟩ | ⟨sessionId, expiresAt, rfl⟩⟩ :=
    KycService.createOrResume_eq_ok hcreate
  · rw [(Table.create_eq_some hcreated).2, List.mem_append, List.mem_singleton] at ht
    rcases ht with ht | rfl
    · exact .inl ⟨t, ht, rfl⟩
    · exact .inr (hparams.keeps .rfl (congrArg OnboardingSession.marketerId horigin :)
        (congrArg OnboardingSession.companyId horigin :))
  · have ht : t ∈ (db.onboardingSessions.update sessionId (fun s => { s with expiresAt })
      fun _ => rfl).rows := ht
    rcases Table.mem_update ht with ht | ⟨s, hs, rfl⟩
    · exact .inl ⟨t, ht, rfl⟩
    · exact .inl ⟨s, hs, rfl⟩

theorem sourced_findReferrer {data : Registration} {s : OnboardingSession}
    (h : KycService.findReferrer data db = .ok (s.marketerId, s.companyId)) : db.Sourced s where
  referral := findReferrer_referral h
  coded hnone := by
    rw [KycService.findReferrer] at h
    split at h
    · split at h
      · cases h
      · rename_i marketer hmarketer
        obtain ⟨hid, -⟩ := Prod.mk.inj (Except.ok.inj h)
        have hrole := List.find?_some hmarketer
        simp only [decide_eq_true_eq] at hrole
        refine ⟨marketer, ?_, hrole.2⟩
        rw [KycService.marketerOf, Option.bind_some, ← hid, Option.bind_some]
        exact Table.find?_of_mem (List.mem_of_find?_eq_some hmarketer)
    · split at h
      · cases h
      · rename_i company _
        obtain ⟨-, hcompany⟩ := Prod.mk.inj (Except.ok.inj h)
        rw [hnone] at hcompany
        cases hcompany

/-- Company staff register for their own company. -/
theorem sourced_reviewer {reviewerId : String} {reviewer : User} {s : OnboardingSession}
    (h : (db.users.find? reviewerId).filter (fun u => u.companyId.isSome) = some reviewer)
    (hmarketer : s.marketerId = if reviewer.role = .admin then some reviewer.userId else none)
    (hcompany : s.companyId = reviewer.companyId) : db.Sourced s where
  referral := by
    obtain ⟨hfind, -⟩ := Option.filter_eq_some_iff.mp h
    rw [hmarketer, hcompany]
    by_cases hadmin : reviewer.role = .admin
    · rw [if_pos hadmin]
      intro m hm
      cases hm
      rw [← Table.find?_key hfind] at hfind
      exact ⟨reviewer, hfind, .inr ⟨hadmin, rfl⟩⟩
    · rw [if_neg hadmin]
      exact referral_none db _
  coded hnone := by
    obtain ⟨-, hsome⟩ := Option.filter_eq_some_iff.mp h
    rw [← hcompany, hnone] at hsome
    cases hsome

theorem SessionsSourced.apply (h : db.SessionsSourced) (bcryptHash : String → String)
    (step : SalesStep) : (step.apply bcryptHash db).SessionsSourced := by
  cases step with
  | registerViaReferral data sessionId now =>
    refine committed_rule h fun res hregister => ?_
    rw [KycService.registerViaReferral] at hregister
    split at hregister
    · cases hregister
    · rename_i marketerId companyId hreferrer
      split at hregister
      · cases hregister
      · exact h.createOrResume (sourced_findReferrer hreferrer) hregister
  | registerDirect reviewerId data sessionId now =>
    refine committed_rule h fun res hregister => ?_
    rw [KycService.registerDirect] at hregister
    split at hregister
    · cases hregister
    · rename_i reviewer hreviewer
      split at hregister
      · cases hregister
      · simp only at hregister
        split at hregister
        · cases hregister
        · exact h.createOrResume (sourced_reviewer hreviewer rfl rfl) hregister
  | submitApplication storage sessionId params file m =>
    refine committed_rule h fun res hsubmit => ?_
    refine h.keeps (KycService.keeps_submitApplication hsubmit) fun t ht => .inl ?_
    obtain ⟨_, _, _, _, _, _, _, -, -, -, -, -, -, hdb⟩ := KycService.submitApplication_eq_ok hsubmit
    rw [hdb] at ht
    have ht : t ∈ (db.onboardingSessions.update sessionId KycService.submittedRow
      fun _ => rfl).rows := ht
    rcases Table.mem_update ht with ht | ⟨s, hs, rfl⟩
    · exact ⟨t, ht, rfl⟩
    · exact ⟨s, hs, rfl⟩
  | approveApplication applicationId reviewerId m =>
    refine committed_rule h fun res happrove => ?_
    obtain ⟨r, signature, -, -, -, hcommit⟩ := KycService.approveApplication_eq_ok happrove
    exact h.keeps (KycService.keeps_commitApproval hcommit) fun t ht =>
      .inl (KycService.mem_sessions_commitApproval hcommit ht)

end Database

namespace SalesStep
variable {db : Database} {bcryptHash : String → String}

theorem applicationSession_loaded {r : Review} {applicationId reviewerId : String}
    (h : r.Loaded applicationId reviewerId db) :
    applicationSession applicationId db = some r.session := by
  rw [applicationSession, h.application]
  exact h.session

theorem role_of_marketerOf {s : OnboardingSession} (hs : db.Sourced s) {marketer : User}
    (h : KycService.marketerOf (some s) db = some marketer) :
    marketer.role = .marketer ∧ s.companyId = none ∨
      marketer.role = .admin ∧ s.companyId = marketer.companyId := by
  obtain ⟨id, hid, hfind⟩ := Option.bind_eq_some_iff.mp h
  obtain ⟨u, hu, hcases⟩ := hs.referral id hid
  rw [hfind] at hu
  cases hu
  exact hcases

theorem ofSeller_newUser_iff {applicationId : String} (userId : String) {s : OnboardingSession}
    (hs : db.Sourced s) (hsession : applicationSession applicationId db = some s) :
    OfSeller applicationId (KycService.newUser s userId) db ↔
      (∀ marketer ∈ KycService.marketerOf (some s) db, marketer.role ≠ .marketer) ∧
        financedCompany applicationId db = s.companyId := by
  rw [OfSeller, hsession]
  constructor
  · rintro ⟨company, hcompany, hfinanced, -⟩
    have hcompany : s.companyId = some company := hcompany
    refine ⟨fun marketer hmarketer hrole => ?_, hfinanced.trans hcompany.symm⟩
    rcases role_of_marketerOf hs hmarketer with ⟨-, hnone⟩ | ⟨hadmin, -⟩
    · rw [hcompany] at hnone
      cases hnone
    · rw [hrole] at hadmin
      cases hadmin
  · rintro ⟨hrole, hfinanced⟩
    cases hcompany : s.companyId with
    | none =>
      obtain ⟨marketer, hmarketer, hcoded⟩ := hs.coded hcompany
      exact absurd hcoded (hrole marketer hmarketer)
    | some company =>
      refine ⟨company, hcompany, hfinanced.trans hcompany, fun marketer hmarketer => ?_⟩
      rcases role_of_marketerOf hs hmarketer with ⟨hcoded, -⟩ | ⟨-, he⟩
      · exact absurd hcoded (hrole marketer hmarketer)
      · exact he.symm.trans hcompany

/-- What follows for the settlements from the company of the customer alone. -/
theorem settled_of_customer {company contractId : String} {user : User}
    (hcompany : user.companyId = some company) {later : Database}
    (huser : later.users.find? user.userId = some user)
    (howner : (later.financingContracts.find? contractId).bind FinancingContract.userId =
      some user.userId) {i : Installment} (hi : i ∈ later.installments.rows)
    (hid : i.financingContractId = contractId)
    (hunsettled : MerchantSettlementService.unsettled later i = true) :
    i ∈ MerchantSettlementService.eligibleInstallments company later ∧
      company ∈ MerchantSettlementService.pendingCompanyIds later := by
  have heligible : i ∈ MerchantSettlementService.eligibleInstallments company later := by
    refine MerchantSettlementService.mem_eligibleInstallments.mpr ⟨hi, hunsettled, ?_⟩
    rw [MerchantSettlementService.customerCompany, hid, howner, Option.bind_some, huser]
    exact hcompany
  exact ⟨heligible, MerchantSettlementService.mem_pendingCompanyIds.mpr ⟨i, heligible⟩⟩

theorem sellsOwn_iff (h : db.SessionsSourced) (step : SalesStep) :
    step.SellsOwn bcryptHash db ∧ step.PaysSeller bcryptHash db ↔ step.FinancesOwn db := by
  cases step with
  | registerViaReferral | registerDirect | submitApplication =>
    simp only [SellsOwn, PaysSeller, FinancesOwn, and_self]
  | approveApplication applicationId reviewerId m =>
    simp only [SellsOwn, PaysSeller, FinancesOwn]
    rw [← imp_and]
    refine imp_congr_right fun happroves => ?_
    obtain ⟨db', hok⟩ := approves_iff.mp happroves
    obtain ⟨r, contract, hloaded, -, hcontract, hactivate⟩ :=
      KycService.approveApplication_approved hok
    have hsession := applicationSession_loaded hloaded
    have hsourced := h r.session <| by
      obtain ⟨id, -, hfind⟩ := Option.bind_eq_some_iff.mp hloaded.session
      exact Table.mem_of_find? hfind
    have huser := hactivate.find?_newUser
    simp only [apply, hok, committed_ok, huser, Option.mem_some_iff, forall_eq', hsession,
      Option.bind_some]
    rw [← ofSeller_newUser_iff m.userId hsourced hsession]
    refine and_iff_left_of_imp fun hsells contract _ => ?_
    obtain ⟨company, hcompany, hfinanced, -⟩ := hsells
    refine ⟨company, hfinanced, fun later hlater howner i hi hid hunsettled => ?_⟩
    exact settled_of_customer hcompany hlater howner hi hid hunsettled

end SalesStep

/-- The customers of a run are their seller's, who is paid for them, exactly when
each approval that creates one finances a product of the company that the
session was registered for, and no session is a MARKETER's referral. -/
theorem customers_of_seller_iff (bcryptHash : String → String) (db : Database)
    (h : db.SessionsSourced) (steps : List SalesStep) :
    Along (SalesStep.apply bcryptHash)
      (fun db step => step.SellsOwn bcryptHash db ∧ step.PaysSeller bcryptHash db) db steps ↔
    Along (SalesStep.apply bcryptHash) (fun db step => step.FinancesOwn db) db steps :=
  along_iff_along (fun _ step h => SalesStep.sellsOwn_iff h step)
    (fun _ step h _ => h.apply bcryptHash step) h

/-- A company with its admin, a marketer of his, and a product on offer. -/
def shop : Database where
  users := ⟨[{ userId := "admin", role := .admin, companyId := some "co" },
    { userId := "marketer", role := .marketer, companyId := some "co"
      createdById := some "admin", referralCode := some "REF" }], by decide⟩
  companies := ⟨[{ companyId := "co", name := "Shop", publicSignupCode := some "CODE" }], by decide⟩
  products := ⟨[{ productId := "p", companyId := some "co", status := .published }], by decide⟩
  productVariants := ⟨[{ variantId := "v", productId := "p", price := 100, stockQuantity := 1 }],
    by decide⟩
  productInstallmentPlans := ⟨[{ planId := "plan", productId := "p", durationMonths := 2 }],
    by decide⟩

def offer : SubmitApplication where
  productId := "p"
  variantId := "v"
  installmentPlanId := "plan"
  idType := "NIN"
  idNumber := "12345"

def statementPdf : UploadedPdfFile where
  originalname := "bank.pdf"
  path := "/tmp/dummy.pdf"
  size := 1
  mimetype := "application/pdf"

def noStorage : Storage where
  uploadPdf _ := .error "offline"
  fileHash _ := "hash"

def saleMoment : KycMoment where
  now := 0
  applicationId := "k"
  contractId := "c"
  userId := "customer"
  installmentId := fun n => toString n

/-- A registration, its application, and the approvals of those named. -/
def saleBy (data : Registration) (reviewers : List String) : List SalesStep :=
  [.registerViaReferral data "s" 0, .submitApplication noStorage "s" offer statementPdf saleMoment] ++
    reviewers.map fun reviewerId => .approveApplication "k" reviewerId saleMoment

theorem sold_by_company_code : Along (SalesStep.apply id)
    (fun db step => step.SellsOwn id db ∧ step.PaysSeller id db) shop
    (saleBy { name := "Ada", email := "ada@x.y", password := "pw", companyCode := some "CODE" }
      ["admin"]) :=
  (customers_of_seller_iff id shop (fun _ hs => nomatch hs) _).mpr (by decide +kernel)

/-- The customer of a marketer's referral has no company. -/
theorem marketer_referral_without_company : ¬ Along (SalesStep.apply id)
    (fun db step => step.SellsOwn id db) shop
    (saleBy { name := "Ada", email := "ada@x.y", password := "pw", referredByCode := some "REF" }
      ["marketer", "admin"]) := by
  decide +kernel

end InstalFlow
