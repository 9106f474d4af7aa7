import InstalFlow.InstallmentSchedule
import InstalFlow.KycRegistration

/-!
# Applications and their reviews

A registered customer applies with a document for an installment plan; the
application and the contract it may lead to are stored together. A referring
marketer approves first, staff of the company last; the last approval claims
the application, creates the customer, and activates the contract with its
schedule. Every check is made on rows read in front of the transaction.
-/

namespace InstalFlow
open Relational

def Role.name : Role → String
  | .superAdmin => "SUPER_ADMIN"
  | .admin => "ADMIN"
  | .company => "COMPANY"
  | .marketer => "MARKETER"
  | .customer => "CUSTOMER"

/-- What the environment gives an operation: the time, the keys of the rows it
creates, and the order in which a query without one returns its rows. -/
structure KycMoment where
  now : DateTime
  applicationId : String := ""
  contractId : String := ""
  assetId : String := ""
  userId : String := ""
  referralId : String := ""
  randomHex : String := ""
  installmentId : ℕ → String := fun _ => ""
  rank : String → ℕ := fun _ => 0

structure UploadedPdfFile where
  originalname : String
  path : String
  size : ℕ
  mimetype : String

structure UploadResult where
  publicId : String
  url : String

/-- Where uploads go, and what the file system knows of a file. -/
structure Storage where
  test : Bool := false
  uploadPdf : String → Except String UploadResult
  fileHash : String → String

structure SubmitApplication where
  productId : String
  variantId : String
  installmentPlanId : String
  idType : String
  idNumber : String

namespace KycService

def maxFileSize : ℕ := 10 * 1024 * 1024

/-- `path.extname`: from the last dot of the last component, if another character
stands before it. -/
def extname (fileName : String) : String :=
  let base := (fileName.toList.reverse.takeWhile (fun c => c ≠ '/')).reverse
  let extension := (base.reverse.takeWhile (fun c => c ≠ '.')).reverse
  if extension.length + 1 < base.length then String.ofList ('.' :: extension) else ""

def toLowerCase (s : String) : String := String.ofList (s.toList.map Char.toLower)

def dummyUpload : UploadResult where
  publicId := "documents/dummy_pdf_test"
  url := "https://res.cloudinary.com/demo/image/upload/v12345/dummy.pdf"

def upload (storage : Storage) (file : UploadedPdfFile) : Except AppError UploadResult :=
  if file.path.toList.tails.any "dummy.pdf".toList.isPrefixOf ∨ storage.test then .ok dummyUpload
  else
    match storage.uploadPdf file.path with
    | .error message => .error (.error message)
    | .ok result => .ok result

def findSession (sessionId : String) (now : DateTime) (db : Database) :
    Except AppError OnboardingSession :=
  match db.onboardingSessions.find? sessionId with
  | none => .error (.notFound "Onboarding session not found.")
  | some session =>
    if session.expiresAt < now then
      .error (.badRequest "This onboarding session has expired. Please register again.")
    else if session.status = .approved then
      .error (.conflict "This onboarding session is already completed.")
    else .ok session

def assertPdf (file : UploadedPdfFile) : Except AppError Unit :=
  if maxFileSize < file.size then
    .error (.badRequest "Bank statement size must be less than or equal to 10MB.")
  else if toLowerCase (extname file.originalname) ≠ ".pdf" ∨ file.mimetype ≠ "application/pdf" then
    .error (.badRequest "Only PDF (.pdf) documents are accepted.")
  else .ok ()

/-- The plan and the variant applied for. Of the plan only its existence is checked. -/
def findOffer (params : SubmitApplication) (db : Database) :
    Except AppError (ProductInstallmentPlan × ProductVariant) :=
  match db.productInstallmentPlans.find? params.installmentPlanId with
  | none => .error (.notFound "Installment plan not found.")
  | some plan =>
    match db.productVariants.find? params.variantId with
    | none => .error (.notFound "Product variant not found.")
    | some variant =>
      if variant.productId ≠ params.productId then
        .error (.badRequest "Selected variant does not belong to product.")
      else if !variant.isActive then .error (.badRequest "Product variant is inactive.")
      else if variant.stockQuantity ≤ 0 then
        .error (.badRequest "Product variant is out of stock.")
      else
        match db.products.find? params.productId with
        | none => .error (.badRequest "Product is not available for application.")
        | some product =>
          if product.status ≠ .published ∧ product.status ≠ .soldOut then
            .error (.badRequest "Product is not available for application.")
          else .ok (plan, variant)

def newContract (params : SubmitApplication) (plan : ProductInstallmentPlan)
    (variant : ProductVariant) (m : KycMoment) : FinancingContract :=
  let principal := variant.price
  let interest := principal * (plan.interestPercentage / 100)
  { contractId := m.contractId, userId := none, productId := params.productId
    variantId := some params.variantId, kycApplicationId := m.applicationId
    approvedProductPrice := principal
    approvedInterestPercentage := plan.interestPercentage
    approvedDurationMonths := plan.durationMonths
    principal, interest, totalFinanced := principal + interest, status := .pendingActivation }

def newApplication (sessionId : String) (params : SubmitApplication) (m : KycMoment) :
    KycApplication where
  kycApplicationId := m.applicationId
  onboardingSessionId := some sessionId
  productId := params.productId
  variantId := params.variantId
  installmentPlanId := params.installmentPlanId
  idType := params.idType
  idNumber := params.idNumber
  status := .pending
  createdAt := m.now

def auditKyc (entry : KycAuditTrail) (db : Database) : Database :=
  { db with kycAuditTrail := db.kycAuditTrail ++ [entry] }

def submittedEntry (params : SubmitApplication) (fileHash : String) (m : KycMoment) :
    KycAuditTrail where
  kycApplicationId := m.applicationId
  action := "SUBMITTED"
  fileHash := fileHash
  details := "\x7b\"idType\":\"" ++ params.idType ++ "\",\"idVerified\":true," ++
    "\"bankNameVerified\":true,\"nameTallyStatus\":\"VERIFIED_MATCH\"\x7d"

/-- The rows of an application, under their unique keys. -/
def createApplication (application : KycApplication) (contract : FinancingContract)
    (asset : KycDocumentAsset) (db : Database) : Except AppError Database :=
  if db.kycApplications.rows.any
      (fun a => a.onboardingSessionId = application.onboardingSessionId) then
    .error (.uniqueViolation ["onboarding_session_id"])
  else do
    let kycApplications ← createRow db.kycApplications application ["kyc_application_id"]
    let financingContracts ← createRow db.financingContracts contract ["contractId"]
    let kycDocumentAssets ← createRow db.kycDocumentAssets asset ["asset_id"]
    return { db with kycApplications, financingContracts, kycDocumentAssets }

def submittedRow (s : OnboardingSession) : OnboardingSession := { s with status := .kycSubmitted }

def persistApplication (session : OnboardingSession) (params : SubmitApplication)
    (uploadResult : UploadResult) (fileHash : String) (file : UploadedPdfFile) (m : KycMoment)
    (db : Database) : Except AppError (KycApplication × Database) :=
  if db.kycApplications.rows.any (fun a => a.onboardingSessionId = some session.sessionId ∧
      (a.status = .pending ∨ a.status = .approved)) then
    .error (.conflict "You have an existing KYC application.")
  else do
    let (plan, variant) ← findOffer params db
    let application := newApplication session.sessionId params m
    let db ← createApplication application (newContract params plan variant m)
      { assetId := m.assetId, kycApplicationId := m.applicationId
        cloudinaryPublicId := uploadResult.publicId, secureUrl := uploadResult.url
        fileSize := file.size, mimeType := file.mimetype, fileHash
        scheduledDeletionAt := DateTime.addDays m.now 15 } db
    let db := auditKyc (submittedEntry params fileHash m) db
    let onboardingSessions := db.onboardingSessions.update session.sessionId submittedRow
      (fun _ => rfl)
    return (application, { db with onboardingSessions })

def submitApplication (storage : Storage) (sessionId : String) (params : SubmitApplication)
    (file : UploadedPdfFile) (m : KycMoment) (db : Database) :
    Except AppError (KycApplication × Database) := do
  let session ← findSession sessionId m.now db
  assertPdf file
  let uploadResult ← upload storage file
  persistApplication session params uploadResult (storage.fileHash file.path) file m db

end KycService

/-- An application as `include` loads it. -/
structure LoadedApplication where
  application : KycApplication
  fileHash : String
  session : Option OnboardingSession
  marketer : Option User

/-- What an approval has found in front of its transaction. -/
structure Review where
  reviewer : User
  application : KycApplication
  fileHash : String
  session : OnboardingSession
  marketer : Option User

/-- `isMarketerApproval` or `isAdminApproval` -/
inductive Signature
  | marketer | admin
deriving DecidableEq

namespace Review

def requiresMarketerApproval (r : Review) : Bool := r.session.marketerId.isSome

/-- The status the last approval claims the application from. -/
def claimable (r : Review) : KycApplicationStatus :=
  if r.requiresMarketerApproval then .approvalProcessing else .pending

end Review

namespace KycService

def primaryFileHash (applicationId : String) (db : Database) : String :=
  ((db.kycDocumentAssets.rows.find? (fun a => a.kycApplicationId = applicationId)).map
    KycDocumentAsset.fileHash).getD "mock-hash"

def sessionOf (application : KycApplication) (db : Database) : Option OnboardingSession :=
  application.onboardingSessionId.bind db.onboardingSessions.find?

def marketerOf (session : Option OnboardingSession) (db : Database) : Option User :=
  (session.bind OnboardingSession.marketerId).bind db.users.find?

def loadApplication (applicationId : String) (db : Database) : Option LoadedApplication :=
  (db.kycApplications.find? applicationId).map fun application =>
    { application, fileHash := primaryFileHash applicationId db
      session := sessionOf application db, marketer := marketerOf (sessionOf application db) db }

def openReview (reviewer : Option User) (loaded : Option LoadedApplication) :
    Except AppError Review :=
  match reviewer, loaded with
  | none, _ => .error (.unauthorized "Reviewer session is invalid.")
  | some _, none => .error (.notFound "KYC Application not found.")
  | some reviewer, some loaded =>
    match loaded.session with
    | none => .error (.notFound "Onboarding session not found for application.")
    | some session => .ok
      { reviewer, application := loaded.application, fileHash := loaded.fileHash, session
        marketer := loaded.marketer }

def authorize (r : Review) : Except AppError Signature :=
  match r.reviewer.role with
  | .marketer =>
    if r.session.marketerId ≠ some r.reviewer.userId then
      .error (.unauthorized
        "Unauthorized: You are not the referring marketer for this customer.")
    else .ok .marketer
  | .company =>
    if r.session.companyId ≠ r.reviewer.companyId then
      .error (.unauthorized "Unauthorized: This customer does not belong to your company.")
    else .ok .admin
  | .admin =>
    if r.marketer.any (fun m => m.createdById ≠ some r.reviewer.userId) then
      .error (.unauthorized
        "Unauthorized: You are not the Admin associated with this marketer.")
    else .ok .admin
  | .superAdmin | .customer => .error (.unauthorized "Unauthorized role credentials.")

def assertApprovable (r : Review) : Signature → Except AppError Unit
  | .marketer =>
    if r.application.status ≠ .pending then
      .error (.badRequest (s!"Marketer approval is only allowed when application is PENDING. " ++
        s!"Current status: {r.application.status.name}."))
    else .ok ()
  | .admin =>
    if r.requiresMarketerApproval then
      if !r.application.marketerApproved then
        .error (.badRequest
          "Admin/Company approval is only allowed after the Marketer has approved.")
      else if r.application.status ≠ .approvalProcessing then
        .error (.badRequest ("Admin/Company approval is only allowed when application is in " ++
          s!"APPROVAL_PROCESSING. Current status: {r.application.status.name}."))
      else .ok ()
    else if r.application.status ≠ .pending then
      .error (.badRequest (s!"Approval is only allowed when application is PENDING. " ++
        s!"Current status: {r.application.status.name}."))
    else .ok ()

def updateApplication (applicationId : String) (f : KycApplication → KycApplication)
    (hf : ∀ a, (f a).kycApplicationId = a.kycApplicationId) (db : Database) : Database :=
  { db with kycApplications := db.kycApplications.update applicationId f hf }

def scheduleDeletion (applicationId : String) (now : DateTime) (db : Database) : Database :=
  let kycDocumentAssets := db.kycDocumentAssets.updateMany
    (fun a => a.kycApplicationId = applicationId)
    (fun a => { a with scheduledDeletionAt := now - 1000 })
  { db with kycDocumentAssets }

def marketerSigned (now : DateTime) (a : KycApplication) : KycApplication :=
  { a with
    marketerApproved := true
    marketerApprovedAt := some now
    status := .approvalProcessing }

/-- Without a marketer the one approval counts as both. -/
def adminSigned (requiresMarketerApproval : Bool) (now : DateTime) (a : KycApplication) :
    KycApplication :=
  if requiresMarketerApproval then { a with adminApproved := true, adminApprovedAt := some now }
  else
    { a with
      adminApproved := true
      adminApprovedAt := some now
      marketerApproved := true
      marketerApprovedAt := some now }

theorem adminSigned_kycApplicationId (requiresMarketerApproval : Bool) (now : DateTime)
    (a : KycApplication) :
    (adminSigned requiresMarketerApproval now a).kycApplicationId = a.kycApplicationId := by
  cases requiresMarketerApproval <;> rfl

def approvedBy (r : Review) : String :=
  "Approved by " ++ r.reviewer.role.name ++ ": " ++ r.reviewer.name.getD "null"

def signedEntry (r : Review) (action details : String) : KycAuditTrail where
  kycApplicationId := r.application.kycApplicationId
  action := action
  fileHash := r.fileHash
  performedById := some r.reviewer.userId
  details := details

/-- The transaction of a marketer's approval. -/
def recordMarketerApproval (r : Review) (m : KycMoment) (db : Database) : Database :=
  auditKyc (signedEntry r "MARKETER_APPROVED" (approvedBy r))
    (updateApplication r.application.kycApplicationId (marketerSigned m.now) (fun _ => rfl) db)

/-- The statements of the last approval in front of the claim. -/
def signAsAdmin (r : Review) (m : KycMoment) (db : Database) : Database :=
  auditKyc
    (signedEntry r "ADMIN_APPROVED" (approvedBy r ++
      if r.requiresMarketerApproval then "" else
        ". No marketer attached — single-approver flow."))
    (updateApplication r.application.kycApplicationId
      (adminSigned r.requiresMarketerApproval m.now)
      (adminSigned_kycApplicationId r.requiresMarketerApproval m.now) db)

def contractOf (applicationId : String) (db : Database) : Option FinancingContract :=
  db.financingContracts.rows.find? (fun c => c.kycApplicationId = applicationId)

def approvedApplication (userId : String) (a : KycApplication) : KycApplication :=
  { a with status := .approved, userId := some userId }

def activatedContract (userId : String) (now : DateTime) (c : FinancingContract) :
    FinancingContract :=
  { c with userId := some userId, status := .active, activatedAt := some now }

def approvedSession (s : OnboardingSession) : OnboardingSession := { s with status := .approved }

/-- A marketer's customer is recorded under a new referral code. -/
def createReferral (r : Review) (m : KycMoment) (db : Database) : Except AppError Database :=
  match r.session.marketerId, r.marketer with
  | some marketerId, some marketer =>
    let referral : Referral :=
      { referralId := m.referralId, marketerId
        referralCode := "REF-" ++ marketer.referralCode.getD "null" ++ "-" ++ m.randomHex }
    if db.referrals.rows.any (fun s => s.referralCode = referral.referralCode) then
      .error (.uniqueViolation ["referralCode"])
    else
      match createRow db.referrals referral ["referralId"] with
      | .error err => .error err
      | .ok referrals => .ok { db with referrals }
  | _, _ => .ok db

def scheduleOf (contract : FinancingContract) (now : DateTime) :
    Except AppError (List InstallmentCreateInput) :=
  InstallmentService.generateInstallmentSchedule
    { financingContractId := contract.contractId
      totalAmount := contract.totalFinanced
      months := contract.approvedDurationMonths
      firstPaymentDate := now.addDays 3 }

/-- What the last approval does once it has claimed the application: the customer
with the references to it, the session, the referral, and the contract. The two
updates of the application are one here, and so are the two of the contract. -/
def activate (r : Review) (contract : FinancingContract) (m : KycMoment) (db : Database) :
    Except AppError Database := do
  let (_, db) ← AuthService.createUser (newUser r.session m.userId)
    (.uniqueViolation ["email"]) db
  let db := updateApplication r.application.kycApplicationId (approvedApplication m.userId)
    (fun _ => rfl) db
  let onboardingSessions := db.onboardingSessions.update r.session.sessionId approvedSession
    (fun _ => rfl)
  let db ← createReferral r m { db with onboardingSessions }
  let schedule ← scheduleOf contract m.now
  let db ← InstallmentService.createInstallments m.installmentId schedule db
  let financingContracts := db.financingContracts.update contract.contractId
    (activatedContract m.userId m.now) (fun _ => rfl)
  return scheduleDeletion r.application.kycApplicationId m.now { db with financingContracts }

/-- The transaction of the last approval. When the claim finds another status
than the one expected, what was written before it stays. -/
def recordAdminApproval (r : Review) (m : KycMoment) (db : Database) :
    Except AppError (KycApplicationStatus × Database) :=
  match db.kycApplications.find? r.application.kycApplicationId with
  | none => .error (.error "No record was found for an update.")
  | some application =>
    let db := signAsAdmin r m db
    if application.status ≠ r.claimable then .ok (application.status, db)
    else
      match contractOf r.application.kycApplicationId db with
      | none => .error (.notFound "Financing contract not found.")
      | some contract =>
        match activate r contract m db with
        | .error err => .error err
        | .ok db => .ok (.approved, db)

def commitApproval (r : Review) (m : KycMoment) (db : Database) :
    Signature → Except AppError (KycApplicationStatus × Database)
  | .marketer => .ok (.approvalProcessing, recordMarketerApproval r m db)
  | .admin => recordAdminApproval r m db

def approveApplication (applicationId reviewerId : String) (m : KycMoment) (db : Database) :
    Except AppError (KycApplicationStatus × Database) := do
  let r ← openReview (db.users.find? reviewerId) (loadApplication applicationId db)
  let signature ← authorize r
  assertApprovable r signature
  commitApproval r m db signature

def assertRejecter (admin : Option User) : Except AppError User :=
  match admin.filter (fun u => u.role = .admin ∨ u.role = .superAdmin) with
  | none => .error (.unauthorized "Only associated Admins can reject KYC applications.")
  | some admin => .ok admin

def undecided (a : KycApplication) : Bool := a.status = .pending ∨ a.status = .approvalProcessing

def assertUndecided (loaded : Option LoadedApplication) : Except AppError LoadedApplication :=
  match loaded.filter (fun l => undecided l.application) with
  | none => .error (.notFound "KYC application is not available for approval")
  | some loaded => .ok loaded

/-- The marketer is looked up again. A session without one is open to every admin. -/
def assertAssociated (admin : User) (session : Option OnboardingSession) (marketer : Option User) :
    Except AppError Unit :=
  match session.bind OnboardingSession.marketerId with
  | none => .ok ()
  | some _ =>
    if marketer.bind User.createdById ≠ some admin.userId ∧ admin.role ≠ .superAdmin then
      .error (.unauthorized
        "Unauthorized: You are not the Admin associated with this marketer.")
    else .ok ()

def rejectedApplication (reason : String) (a : KycApplication) : KycApplication :=
  { a with status := .rejected, rejectionReason := some reason }

def rejectedContract (now : DateTime) (c : FinancingContract) : FinancingContract :=
  { c with status := .rejected, rejectedAt := some now }

/-- The transaction of a rejection. -/
def recordRejection (admin : User) (loaded : LoadedApplication) (reason : String) (m : KycMoment)
    (db : Database) : Database :=
  let applicationId := loaded.application.kycApplicationId
  let db := updateApplication applicationId (rejectedApplication reason) (fun _ => rfl) db
  let financingContracts := db.financingContracts.updateMany
    (fun c => c.kycApplicationId = applicationId) (rejectedContract m.now) (fun _ => rfl)
  let db := auditKyc
    { kycApplicationId := applicationId, action := "REJECTED", fileHash := loaded.fileHash
      performedById := some admin.userId
      details := "Rejected by Admin: " ++ admin.name.getD "null" ++ ". Reason: " ++ reason }
    { db with financingContracts }
  scheduleDeletion applicationId m.now db

def rejectApplication (applicationId adminId reason : String) (m : KycMoment) (db : Database) :
    Except AppError Database := do
  let admin ← assertRejecter (db.users.find? adminId)
  let loaded ← assertUndecided (loadApplication applicationId db)
  assertAssociated admin loaded.session (marketerOf loaded.session db)
  return recordRejection admin loaded reason m db

end KycService

/-- The review was opened on the rows that the database has. -/
structure Review.Loaded (r : Review) (applicationId reviewerId : String) (db : Database) : Prop where
  reviewer : db.users.find? reviewerId = some r.reviewer
  application : db.kycApplications.find? applicationId = some r.application
  session : KycService.sessionOf r.application db = some r.session
  marketer : r.marketer = r.session.marketerId.bind db.users.find?

namespace KycService
section specifications
variable {applicationId reviewerId : String} {r : Review} {m : KycMoment} {db db' : Database}

theorem contractOf_eq_some {c : FinancingContract} (h : contractOf applicationId db = some c) :
    c ∈ db.financingContracts.rows ∧ c.kycApplicationId = applicationId :=
  ⟨List.mem_of_find?_eq_some h, by simpa using List.find?_some h⟩

theorem openReview_eq_ok {reviewer : Option User} {loaded : Option LoadedApplication}
    (h : openReview reviewer loaded = .ok r) : reviewer = some r.reviewer ∧
      loaded = some { application := r.application, fileHash := r.fileHash
                      session := some r.session, marketer := r.marketer } := by
  cases reviewer with
  | none => cases h
  | some reviewer =>
    cases loaded with
    | none => cases h
    | some l =>
      rw [openReview] at h
      cases hsession : l.session with
      | none =>
        rw [hsession] at h
        cases h
      | some session =>
        rw [hsession] at h
        cases h
        refine ⟨rfl, ?_⟩
        rw [← hsession]

theorem loaded_of_openReview
    (h : openReview (db.users.find? reviewerId) (loadApplication applicationId db) = .ok r) :
    r.Loaded applicationId reviewerId db := by
  obtain ⟨hreviewer, hloaded⟩ := openReview_eq_ok h
  obtain ⟨application, happ, he⟩ := Option.map_eq_some_iff.mp hloaded
  obtain ⟨rfl, -, hsession, hmarketer⟩ := LoadedApplication.mk.inj he
  refine ⟨hreviewer, happ, hsession, ?_⟩
  rw [← hmarketer, hsession]
  rfl

theorem approveApplication_eq_ok {result : KycApplicationStatus × Database}
    (h : approveApplication applicationId reviewerId m db = .ok result) :
    ∃ r signature, r.Loaded applicationId reviewerId db ∧ authorize r = .ok signature ∧
      assertApprovable r signature = .ok () ∧ commitApproval r m db signature = .ok result := by
  obtain ⟨r, hopen, h⟩ := bind_eq_ok.mp h
  obtain ⟨signature, hauthorize, h⟩ := bind_eq_ok.mp h
  obtain ⟨_, hassert, hcommit⟩ := bind_eq_ok.mp h
  exact ⟨r, signature, loaded_of_openReview hopen, hauthorize, hassert, hcommit⟩

theorem assertRejecter_eq_ok {admin : Option User} {u : User} (h : assertRejecter admin = .ok u) :
    admin = some u ∧ (u.role = .admin ∨ u.role = .superAdmin) := by
  rw [assertRejecter] at h
  split at h
  · cases h
  · rename_i v hv
    cases h
    simpa [Option.filter_eq_some_iff] using hv

theorem assertUndecided_eq_ok {loaded : Option LoadedApplication} {l : LoadedApplication}
    (h : assertUndecided loaded = .ok l) : loaded = some l ∧ undecided l.application = true := by
  rw [assertUndecided] at h
  split at h
  · cases h
  · rename_i k hk
    cases h
    exact Option.filter_eq_some_iff.mp hk

theorem rejectApplication_eq_ok {reason : String}
    (h : rejectApplication applicationId reviewerId reason m db = .ok db') :
    ∃ admin loaded, db.users.find? reviewerId = some admin ∧
      (admin.role = .admin ∨ admin.role = .superAdmin) ∧
      loadApplication applicationId db = some loaded ∧ undecided loaded.application = true ∧
      assertAssociated admin loaded.session (marketerOf loaded.session db) = .ok () ∧
      db' = recordRejection admin loaded reason m db := by
  obtain ⟨admin, hadmin, h⟩ := bind_eq_ok.mp h
  obtain ⟨loaded, hloaded, h⟩ := bind_eq_ok.mp h
  obtain ⟨_, hassociated, h⟩ := bind_eq_ok.mp h
  cases h
  obtain ⟨hfind, hrole⟩ := assertRejecter_eq_ok hadmin
  obtain ⟨hload, hundecided⟩ := assertUndecided_eq_ok hloaded
  exact ⟨admin, loaded, hfind, hrole, hload, hundecided, hassociated, rfl⟩

theorem createReferral_eq_ok (h : createReferral r m db = .ok db') :
    ∃ referrals, db' = { db with referrals } := by
  rw [createReferral] at h
  split at h
  · simp only at h
    split at h
    · cases h
    · split at h
      · cases h
      · cases h
        exact ⟨_, rfl⟩
  · cases h
    exact ⟨db.referrals, rfl⟩

theorem createUser_eq_ok {user user' : User} {conflict : AppError}
    (h : AuthService.createUser user conflict db = .ok (user', db')) :
    ∃ users, db.users.create user = some users ∧ db' = { db with users } ∧ user' = user ∧
      ∀ u ∈ db.users.rows, u.email ≠ user.email := by
  rw [AuthService.createUser] at h
  split at h
  · cases h
  · rename_i hfree
    split at h
    · cases h
    · rename_i users hcreate
      cases h
      exact ⟨users, createRow_eq_ok.mp hcreate, rfl, rfl, by simpa using hfree⟩

/-- What an activation writes, table by table. -/
structure Activates (r : Review) (contract : FinancingContract) (m : KycMoment)
    (db db' : Database) : Prop where
  users : db.users.create (newUser r.session m.userId) = some db'.users
  email : ∀ u ∈ db.users.rows, u.email ≠ r.session.email
  applications : db'.kycApplications = db.kycApplications.update r.application.kycApplicationId
    (approvedApplication m.userId) (fun _ => rfl)
  sessions : db'.onboardingSessions = db.onboardingSessions.update r.session.sessionId
    approvedSession (fun _ => rfl)
  contracts : db'.financingContracts = db.financingContracts.update contract.contractId
    (activatedContract m.userId m.now) (fun _ => rfl)
  installments : ∃ schedule, scheduleOf contract m.now = .ok schedule ∧
    db'.installments.rows = db.installments.rows ++
      schedule.map (fun row => row.row (m.installmentId row.sequence)) ∧
    ∀ row ∈ schedule,
      InstallmentService.sequenceTaken row.financingContractId row.sequence db = false
  elsewhere : ∃ referrals kycDocumentAssets, db' = { db with
    users := db'.users, kycApplications := db'.kycApplications
    onboardingSessions := db'.onboardingSessions, installments := db'.installments
    financingContracts := db'.financingContracts, referrals, kycDocumentAssets }

theorem activates_of_ok {contract : FinancingContract} (h : activate r contract m db = .ok db') :
    Activates r contract m db db' := by
  obtain ⟨⟨user, db₁⟩, huser, h⟩ := bind_eq_ok.mp h
  obtain ⟨db₂, hreferral, h⟩ := bind_eq_ok.mp h
  obtain ⟨schedule, hschedule, h⟩ := bind_eq_ok.mp h
  obtain ⟨db₃, hcreate, h⟩ := bind_eq_ok.mp h
  cases h
  obtain ⟨users, husers, rfl, rfl, hemail⟩ := createUser_eq_ok huser
  obtain ⟨referrals, rfl⟩ := createReferral_eq_ok hreferral
  obtain ⟨installments, rfl, hrows, hfree⟩ := InstallmentService.createInstallments_eq_ok hcreate
  exact ⟨husers, hemail, rfl, rfl, rfl, ⟨schedule, hschedule, hrows, hfree⟩, referrals, _, rfl⟩

theorem recordAdminApproval_eq_ok {result : KycApplicationStatus × Database}
    (h : recordAdminApproval r m db = .ok result) :
    ∃ application, db.kycApplications.find? r.application.kycApplicationId = some application ∧
      (application.status ≠ r.claimable ∧ result = (application.status, signAsAdmin r m db) ∨
        application.status = r.claimable ∧ ∃ contract,
          contractOf r.application.kycApplicationId db = some contract ∧
          Activates r contract m (signAsAdmin r m db) result.2 ∧ result.1 = .approved) := by
  rw [recordAdminApproval] at h
  split at h
  · cases h
  · rename_i application happ
    refine ⟨application, happ, ?_⟩
    simp only at h
    split at h
    · rename_i hstatus
      cases h
      exact .inl ⟨hstatus, rfl⟩
    · rename_i hstatus
      split at h
      · cases h
      · rename_i contract hcontract
        split at h
        · cases h
        · rename_i hactivate
          cases h
          exact .inr ⟨not_not.mp hstatus, contract, hcontract, activates_of_ok hactivate, rfl⟩

theorem assertApprovable_admin (h : assertApprovable r .admin = .ok ()) :
    r.application.status = r.claimable ∧
      (r.requiresMarketerApproval = true → r.application.marketerApproved = true) := by
  rw [Review.claimable]
  simp only [assertApprovable] at h
  split at h
  · rename_i hrequires
    split at h
    · cases h
    · rename_i happroved
      split at h
      · cases h
      · rename_i hstatus
        rw [if_pos hrequires]
        exact ⟨not_not.mp hstatus, fun _ => by simpa using happroved⟩
  · rename_i hrequires
    split at h
    · cases h
    · rename_i hstatus
      rw [if_neg hrequires]
      exact ⟨not_not.mp hstatus, fun h => absurd h hrequires⟩

/-- The last approval, which activates, answers APPROVED; an earlier one leaves
contracts and installments alone. -/
theorem approveApplication_cases {result : KycApplicationStatus × Database}
    (h : approveApplication applicationId reviewerId m db = .ok result) :
    (result.1 = .approved ∧ ∃ r contract, r.Loaded applicationId reviewerId db ∧
      r.application.status = r.claimable ∧ contractOf applicationId db = some contract ∧
      Activates r contract m (signAsAdmin r m db) result.2) ∨
    (result.1 ≠ .approved ∧ result.2.installments = db.installments ∧
      result.2.financingContracts = db.financingContracts) := by
  obtain ⟨r, signature, hloaded, -, hassert, hcommit⟩ := approveApplication_eq_ok h
  have hid := Table.find?_key hloaded.application
  cases signature with
  | marketer =>
    cases hcommit
    exact .inr ⟨(fun h => nomatch h), rfl, rfl⟩
  | admin =>
    have hstatus := (assertApprovable_admin hassert).1
    obtain ⟨application, happ, ⟨hne, -⟩ | ⟨-, contract, hcontract, hactivate, happroved⟩⟩ :=
      recordAdminApproval_eq_ok hcommit
    · rw [hid, hloaded.application] at happ
      cases happ
      exact absurd hstatus hne
    · rw [hid] at hcontract
      exact .inl ⟨happroved, r, contract, hloaded, hstatus, hcontract, hactivate⟩

theorem approveApplication_approved
    (h : approveApplication applicationId reviewerId m db = .ok (.approved, db')) :
    ∃ r contract, r.Loaded applicationId reviewerId db ∧ r.application.status = r.claimable ∧
      contractOf applicationId db = some contract ∧
      Activates r contract m (signAsAdmin r m db) db' := by
  rcases approveApplication_cases h with ⟨-, hactivates⟩ | ⟨hne, -⟩
  · exact hactivates
  · exact absurd rfl hne

theorem Activates.find?_newUser {contract : FinancingContract}
    (h : Activates r contract m db db') :
    db'.users.find? m.userId = some (newUser r.session m.userId) :=
  (Table.find?_create h.users m.userId).trans (if_pos rfl)

end specifications
end KycService
end InstalFlow
