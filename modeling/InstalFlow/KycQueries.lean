import InstalFlow.AuthSessions
import InstalFlow.InstallmentQueries
import InstalFlow.KycApplications
import InstalFlow.PayoutQueries

/-!
# The queries of applications

The signed link to the document of an application, its details, and the list of applications
by pages. Each compares the reviewer with the session by its own case split, over who referred
the customer, who created the referrer, and for which company.
-/

namespace InstalFlow
open Relational

structure SignedDocument where
  signedUrl : String
  expiresIn : String := "15 minutes"

/-- An application with the rows it is joined with. -/
structure KycApplicationRecord where
  application : KycApplication
  user : Option User
  referredByMarketer : Option User
  onboardingSession : Option OnboardingSession
  marketer : Option User
  company : Option Company
  product : Option Product
  financingContract : Option FinancingContract

def Database.kycApplicationRecord (db : Database) (a : KycApplication) : KycApplicationRecord :=
  let user := a.userId.bind db.users.find?
  let onboardingSession := KycService.sessionOf a db
  { application := a, user, onboardingSession
    referredByMarketer := (user.bind User.referredByMarketerId).bind db.users.find?
    marketer := KycService.marketerOf onboardingSession db
    company := (onboardingSession.bind OnboardingSession.companyId).bind db.companies.find?
    product := db.products.find? a.productId
    financingContract := KycService.contractOf a.kycApplicationId db }

/-- The details show the documents that are left, too. -/
structure KycApplicationDetails where
  record : KycApplicationRecord
  kycDocumentAssets : List KycDocumentAsset

structure KycApplicationQuery where
  reviewerId : String
  reviewerRole : Role
  companyId : Option String := none
  page : Option ℤ := none
  limit : Option ℤ := none
  sortOrder : Option SortOrder := none
  status : Option KycApplicationStatus := none
  marketerId : Option String := none
  search : Option String := none

structure KycApplicationPage where
  applications : List KycApplicationRecord
  pagination : Pagination

/-- `s.trim()` -/
def trim (s : String) : String :=
  let trimStart := List.dropWhile isSpace
  String.ofList (trimStart (trimStart s.toList).reverse).reverse

/-- `/^[^\s@]+@[^\s@]+$/` -/
def isEmailSearch (term : String) : Bool :=
  match term.toList.splitOn '@' with
  | [name, host] => name ≠ [] ∧ host ≠ [] ∧ (name ++ host).all fun c => !isSpace c
  | _ => false

namespace KycService

/-- `orderBy: { createdAt: sortOrder }`, where `rank` is the order of rows of one time. -/
def createdOrder (rank : String → ℕ) : SortOrder → KycApplication → KycApplication → Bool
  | .asc, a, b => a.createdAt < b.createdAt ∨
      a.createdAt = b.createdAt ∧ rank a.kycApplicationId ≤ rank b.kycApplicationId
  | .desc, a, b => b.createdAt < a.createdAt ∨
      a.createdAt = b.createdAt ∧ rank a.kycApplicationId ≤ rank b.kycApplicationId

/-- A referred customer is shown to the referrer and to the referrer's creator, one without a
referrer to the company. -/
def assertVisible (role : Role) (reviewer : User) (session : Option OnboardingSession)
    (marketer : Option User) : Except AppError Unit :=
  match role with
  | .marketer =>
    if session.bind OnboardingSession.marketerId ≠ some reviewer.userId then
      .error (.unauthorized
        "Unauthorized: You are not the referring marketer for this customer.")
    else .ok ()
  | .admin | .company =>
    match session.bind OnboardingSession.marketerId with
    | some _ =>
      if marketer.bind User.createdById ≠ some reviewer.userId then
        .error (.unauthorized
          "Unauthorized: You are not the Admin associated with this marketer.")
      else .ok ()
    | none =>
      -- without a session the company is undefined, which no user's company is
      if session.map OnboardingSession.companyId ≠ some reviewer.companyId then
        .error (.unauthorized "Unauthorized: This customer does not belong to your company.")
      else .ok ()
  | .superAdmin | .customer => .ok ()

def assertReviewer (reviewer : Option User) : Except AppError User :=
  match reviewer.filter (fun u => u.role ≠ .customer) with
  | none => .error (.unauthorized "Unauthorized review session.")
  | some reviewer => .ok reviewer

def findApplication (applicationId : String) (db : Database) : Except AppError KycApplication :=
  match db.kycApplications.find? applicationId with
  | none => .error (.notFound "KYC Application not found.")
  | some application => .ok application

def documentsOf (applicationId : String) (db : Database) : List KycDocumentAsset :=
  db.kycDocumentAssets.rows.filter fun d => d.kycApplicationId = applicationId

/-- The first document that has not been purged -/
def findDocument (applicationId : String) (db : Database) : Except AppError KycDocumentAsset :=
  match (documentsOf applicationId db).find? (fun d => !d.isDeleted) with
  | none => .error (.notFound ("Physical bank statement file has been purged from servers " ++
      "under NDPR compliance policies."))
  | some asset => .ok asset

def getSignedDocumentUrl (generateSignedUrl : String → String) (applicationId reviewerId : String)
    (db : Database) : Except AppError SignedDocument := do
  let reviewer ← assertReviewer (db.users.find? reviewerId)
  let application ← findApplication applicationId db
  let session := sessionOf application db
  assertVisible reviewer.role reviewer session (marketerOf session db)
  let asset ← findDocument applicationId db
  return { signedUrl := generateSignedUrl asset.cloudinaryPublicId }

/-- The role is that of the request. -/
def getKycApplicationById (applicationId reviewerId : String) (reviewerRole : Role)
    (db : Database) : Except AppError KycApplicationDetails := do
  let reviewer ← assertReviewer (db.users.find? reviewerId)
  let application ← findApplication applicationId db
  let session := sessionOf application db
  assertVisible reviewerRole reviewer session (marketerOf session db)
  return ⟨db.kycApplicationRecord application,
    (documentsOf applicationId db).filter fun d => !d.isDeleted⟩

/-- The applications that a role is shown. An ADMIN's are those of the marketers that the ADMIN
has created, and those that the ADMIN has registered. -/
def reviewScope (reviewerId : String) (companyId : Option String) :
    Role → Except AppError (KycApplicationRecord → Bool)
  | .marketer => .ok fun r => r.onboardingSession.any fun s => s.marketerId = some reviewerId
  | .admin => .ok fun r => r.onboardingSession.any fun s =>
      r.marketer.any (fun m => m.createdById = some reviewerId) ∨ s.marketerId = some reviewerId
  | .company =>
    match companyId.filter (fun c => c ≠ "") with
    | none => .error (.badRequest "Company account is not associated with a company.")
    | some companyId => .ok fun r => r.onboardingSession.any fun s => s.companyId = some companyId
  | .superAdmin => .ok fun _ => true
  | .customer => .error (.unauthorized "You are not authorized to view KYC applications.")

section search
variable (contains : String → String → Bool)

/-- `contains` with `mode: "insensitive"` is the database's match of a text with a term. -/
def found (term : String) (r : KycApplicationRecord) : Bool :=
  r.user.any (fun u => u.name.any (contains · term)) ||
  r.product.any (fun p => contains p.name term || contains p.slug term) ||
  r.marketer.any (fun m => m.name.any (contains · term)) ||
  isEmailSearch term && (r.user.any (fun u => contains u.email term) ||
    r.onboardingSession.any fun s => contains s.email term)

/-- The filters of a request. A MARKETER's own marketer is not replaced. -/
def selects (params : KycApplicationQuery) (r : KycApplicationRecord) : Bool :=
  params.status.all (r.application.status = ·) &&
  (params.marketerId.filter (fun id => id ≠ "")).all (fun id =>
    params.reviewerRole = .marketer ∨
      r.onboardingSession.bind OnboardingSession.marketerId = some id) &&
  (params.search.filter (fun text => text ≠ "")).all fun text => found contains (trim text) r

def getAllKycApplications (rank : String → ℕ) (params : KycApplicationQuery) (db : Database) :
    Except AppError KycApplicationPage := do
  let page := params.page.getD 1
  let limit := params.limit.getD 10
  let scope ← reviewScope params.reviewerId params.companyId params.reviewerRole
  let selected := (db.kycApplications.rows.map db.kycApplicationRecord).filter fun r =>
    scope r && selects contains params r
  let sorted := selected.insertionSort fun a b =>
    createdOrder rank (params.sortOrder.getD .desc) a.application b.application = true
  let applications ← CommissionService.paginate sorted ((page - 1) * limit) limit
  return ⟨applications, pagination page limit selected.length⟩

end search

section specifications
variable {applicationId reviewerId : String} {reviewer : User} {application : KycApplication}
  {db : Database}

theorem assertReviewer_some (h : reviewer.role ≠ .customer) :
    assertReviewer (some reviewer) = .ok reviewer := by
  rw [assertReviewer, Option.filter_some, if_pos (by simpa using h)]

theorem findApplication_some (h : db.kycApplications.find? applicationId = some application) :
    findApplication applicationId db = .ok application := by
  rw [findApplication, h]

theorem mem_documentsOf {d : KycDocumentAsset} : d ∈ documentsOf applicationId db ↔
    d ∈ db.kycDocumentAssets.rows ∧ d.kycApplicationId = applicationId := by
  rw [documentsOf, List.mem_filter, decide_eq_true_iff]

theorem findDocument_isOk_iff : (findDocument applicationId db).isOk = true ↔
    ∃ d ∈ db.kycDocumentAssets.rows, d.kycApplicationId = applicationId ∧ d.isDeleted = false := by
  have hsome : (findDocument applicationId db).isOk =
      ((documentsOf applicationId db).find? fun d => !d.isDeleted).isSome := by
    rw [findDocument]
    split <;> rename_i h <;> rw [h] <;> rfl
  rw [hsome, List.find?_isSome]
  simp only [mem_documentsOf, Bool.not_eq_true', and_assoc]

theorem getSignedDocumentUrl_isOk_iff (generateSignedUrl : String → String)
    (hreviewer : db.users.find? reviewerId = some reviewer) (hrole : reviewer.role ≠ .customer)
    (happ : db.kycApplications.find? applicationId = some application) :
    (getSignedDocumentUrl generateSignedUrl applicationId reviewerId db).isOk = true ↔
      assertVisible reviewer.role reviewer (sessionOf application db)
        (marketerOf (sessionOf application db) db) = .ok () ∧
      (findDocument applicationId db).isOk = true := by
  rw [getSignedDocumentUrl, hreviewer, assertReviewer_some hrole, findApplication_some happ]
  simp only [isOk_iff]
  constructor
  · intro h
    obtain ⟨document, h⟩ := h
    obtain ⟨_, hfound, h⟩ := bind_eq_ok.mp h
    cases hfound
    obtain ⟨_, hfound, h⟩ := bind_eq_ok.mp h
    cases hfound
    obtain ⟨_, hvisible, h⟩ := bind_eq_ok.mp h
    obtain ⟨asset, hasset, -⟩ := bind_eq_ok.mp h
    exact ⟨hvisible, asset, hasset⟩
  · intro h
    obtain ⟨hvisible, asset, hasset⟩ := h
    exact ⟨_, bind_eq_ok.mpr ⟨reviewer, rfl, bind_eq_ok.mpr ⟨application, rfl,
      bind_eq_ok.mpr ⟨(), hvisible, bind_eq_ok.mpr ⟨asset, hasset, rfl⟩⟩⟩⟩⟩

theorem getKycApplicationById_isOk_iff (reviewerRole : Role)
    (hreviewer : db.users.find? reviewerId = some reviewer) (hrole : reviewer.role ≠ .customer)
    (happ : db.kycApplications.find? applicationId = some application) :
    (getKycApplicationById applicationId reviewerId reviewerRole db).isOk = true ↔
      assertVisible reviewerRole reviewer (sessionOf application db)
        (marketerOf (sessionOf application db) db) = .ok () := by
  rw [getKycApplicationById, hreviewer, assertReviewer_some hrole, findApplication_some happ]
  change ((assertVisible reviewerRole reviewer (sessionOf application db)
    (marketerOf (sessionOf application db) db)).bind _).isOk = true ↔ _
  cases assertVisible reviewerRole reviewer (sessionOf application db)
    (marketerOf (sessionOf application db) db) with
  | error err => exact iff_of_false Bool.false_ne_true fun h => by cases h
  | ok _ => exact iff_of_true rfl rfl

/-- Under the reviewer's own role the details are open to whom the document is. -/
theorem getSignedDocumentUrl_isOk_iff_reads (generateSignedUrl : String → String)
    (hreviewer : db.users.find? reviewerId = some reviewer) (hrole : reviewer.role ≠ .customer)
    (happ : db.kycApplications.find? applicationId = some application) :
    (getSignedDocumentUrl generateSignedUrl applicationId reviewerId db).isOk = true ↔
      (getKycApplicationById applicationId reviewerId reviewer.role db).isOk = true ∧
      (findDocument applicationId db).isOk = true := by
  rw [getSignedDocumentUrl_isOk_iff generateSignedUrl hreviewer hrole happ,
    getKycApplicationById_isOk_iff reviewer.role hreviewer hrole happ]

/-- What is selected for the role and by the filters is on one of the pages. -/
theorem exists_page_iff (contains : String → String → Bool) (rank : String → ℕ)
    (params : KycApplicationQuery) {limit : ℤ} (hlimit : params.limit = some limit)
    (hpos : 0 < limit) {r : KycApplicationRecord} :
    (∃ page ≥ 1, ∃ result,
      getAllKycApplications contains rank { params with page := some page } db = .ok result ∧
        r ∈ result.applications) ↔
    ∃ scope, reviewScope params.reviewerId params.companyId params.reviewerRole = .ok scope ∧
      r ∈ db.kycApplications.rows.map db.kycApplicationRecord ∧ scope r = true ∧
      selects contains params r = true := by
  have hsorted (scope : KycApplicationRecord → Bool) :
      r ∈ ((db.kycApplications.rows.map db.kycApplicationRecord).filter fun r =>
          scope r && selects contains params r).insertionSort (fun a b =>
            createdOrder rank (params.sortOrder.getD .desc) a.application b.application = true) ↔
        r ∈ db.kycApplications.rows.map db.kycApplicationRecord ∧ scope r = true ∧
          selects contains params r = true := by
    rw [(List.perm_insertionSort _ _).mem_iff, List.mem_filter, Bool.and_eq_true]
  simp only [← hsorted]
  constructor
  · intro h
    obtain ⟨page, hpage, result, hresult, hr⟩ := h
    obtain ⟨scope, hscope, hresult⟩ := bind_eq_ok.mp hresult
    obtain ⟨applications, happlications, hresult⟩ := bind_eq_ok.mp hresult
    cases hresult
    rw [hlimit] at happlications
    exact ⟨scope, hscope, (CommissionService.mem_iff_exists_page hpos).mpr
      ⟨page, hpage, applications, happlications, hr⟩⟩
  · intro h
    obtain ⟨scope, hscope, hr⟩ := h
    obtain ⟨page, hpage, applications, happlications, hr⟩ :=
      (CommissionService.mem_iff_exists_page hpos).mp hr
    refine ⟨page, hpage, ⟨applications, _⟩, bind_eq_ok.mpr ⟨scope, hscope,
      bind_eq_ok.mpr ⟨applications, ?_, rfl⟩⟩, hr⟩
    rw [hlimit]
    exact happlications

end specifications
end KycService
end InstalFlow
