import InstalFlow.CustomerCompany
import InstalFlow.KycQueries

/-!
# The reach of a reviewer

Whom an approval or a rejection lets decide on an application, whom its document is shown to,
and whose list it stands on are worked out apart, and they part where a customer has no
referrer, or one that another user of the company has created.
-/

namespace InstalFlow
open Relational Transition

/-- The application has a document that is not purged. -/
def Documented (applicationId : String) (db : Database) : Prop :=
  ∃ d ∈ db.kycDocumentAssets.rows, d.kycApplicationId = applicationId ∧ d.isDeleted = false

instance (applicationId : String) (db : Database) : Decidable (Documented applicationId db) :=
  inferInstanceAs (Decidable (∃ d ∈ db.kycDocumentAssets.rows, _))

/-- The list of a logged-in user without filters -/
def KycApplicationQuery.unfiltered (user : RefreshClaims) (sortOrder : SortOrder) (limit : ℤ) :
    KycApplicationQuery where
  reviewerId := user.userId
  reviewerRole := user.role
  companyId := user.companyId
  limit := some limit
  sortOrder := some sortOrder

namespace ReviewCall

/-- The checks that a review makes of its reviewer. -/
def authorises (db : Database) : ReviewCall → Bool
  | approve applicationId reviewerId => Except.isOk do
      let review ← KycService.openReview (db.users.find? reviewerId)
        (KycService.loadApplication applicationId db)
      KycService.authorize review
  | reject applicationId reviewerId _ => Except.isOk do
      let admin ← KycService.assertRejecter (db.users.find? reviewerId)
      let loaded ← KycService.assertUndecided (KycService.loadApplication applicationId db)
      KycService.assertAssociated admin loaded.session (KycService.marketerOf loaded.session db)

/-- The reviewer opens the document, unless it has been purged. -/
def OpensDocument (generateSignedUrl : String → String) (db : Database) (call : ReviewCall) :
    Prop :=
  Documented call.applicationId db →
    (KycService.getSignedDocumentUrl generateSignedUrl call.applicationId call.reviewerId
      db).isOk = true

/-- In any order and by pages of any length, one page shows the application. -/
def FindsApplication (contains : String → String → Bool) (rank : String → ℕ) (db : Database)
    (call : ReviewCall) : Prop :=
  ∀ reviewer ∈ db.users.find? call.reviewerId, ∀ (sortOrder : SortOrder) (limit : ℤ), 0 < limit →
    ∃ page ≥ 1, ∃ result, KycService.getAllKycApplications contains rank
      { KycApplicationQuery.unfiltered reviewer.claims sortOrder limit with page := some page }
      db = .ok result ∧
    ∃ r ∈ result.applications, r.application.kycApplicationId = call.applicationId

/-- An ADMIN's application has a referrer. A COMPANY user has a company, and the customer of that
company no referrer, one whom the user created, or no document left. -/
def InReach (db : Database) : ReviewCall → Prop
  | approve applicationId reviewerId => ∀ reviewer ∈ db.users.find? reviewerId,
    ∀ session ∈ applicationSession applicationId db,
    (reviewer.role = .admin → (KycService.marketerOf (some session) db).isSome) ∧
    (reviewer.role = .company → session.companyId = reviewer.companyId →
      reviewer.companyId.any (fun c => c ≠ "") ∧
      (Documented applicationId db → session.marketerId = none ∨
        (KycService.marketerOf (some session) db).bind User.createdById = some reviewer.userId))
  | reject applicationId reviewerId _ => ∀ reviewer ∈ db.users.find? reviewerId,
    reviewer.role = .admin →
    ∀ application ∈ db.kycApplications.find? applicationId,
      KycService.undecided application = true →
      ((KycService.sessionOf application db).bind OnboardingSession.marketerId).isSome

instance (db : Database) : (call : ReviewCall) → Decidable (call.InReach db)
  | approve _ _ => inferInstanceAs (Decidable (∀ reviewer ∈ db.users.find? _,
      ∀ session ∈ applicationSession _ db, (_ → _) ∧ (_ → _ → _ ∧ (_ → _ ∨ _))))
  | reject _ _ _ => inferInstanceAs (Decidable (∀ reviewer ∈ db.users.find? _, _ →
      ∀ application ∈ db.kycApplications.find? _, _ → _))

variable {db : Database} {call : ReviewCall} {reviewer : User} {application : KycApplication}

theorem opensDocument_iff (generateSignedUrl : String → String)
    (hreviewer : db.users.find? call.reviewerId = some reviewer) (hrole : reviewer.role ≠ .customer)
    (happ : db.kycApplications.find? call.applicationId = some application) :
    call.OpensDocument generateSignedUrl db ↔ (Documented call.applicationId db →
      KycService.assertVisible reviewer.role reviewer (KycService.sessionOf application db)
        (KycService.marketerOf (KycService.sessionOf application db) db) = .ok ()) := by
  refine forall_congr' fun hdocumented => ?_
  rw [KycService.getSignedDocumentUrl_isOk_iff generateSignedUrl hreviewer hrole happ]
  exact and_iff_left (KycService.findDocument_isOk_iff.mpr hdocumented)

theorem findsApplication_iff (contains : String → String → Bool) (rank : String → ℕ)
    (hreviewer : db.users.find? call.reviewerId = some reviewer)
    (happ : db.kycApplications.find? call.applicationId = some application) :
    call.FindsApplication contains rank db ↔
      ∃ scope, KycService.reviewScope reviewer.userId reviewer.companyId reviewer.role = .ok scope ∧
        scope (db.kycApplicationRecord application) = true := by
  have hid := Table.find?_key happ
  constructor
  · intro hfinds
    obtain ⟨page, hpage, result, hresult, r, hr, hkey⟩ := hfinds reviewer hreviewer .asc 1 one_pos
    obtain ⟨scope, hscope, hrow, hshown, -⟩ :=
      (KycService.exists_page_iff contains rank (.unfiltered reviewer.claims .asc 1) rfl
        one_pos).mp ⟨page, hpage, result, hresult, hr⟩
    obtain ⟨a, ha, rfl⟩ := List.mem_map.mp hrow
    obtain rfl : a = application := Table.key_injective ha (Table.mem_of_find? happ)
      (hkey.trans hid.symm)
    exact ⟨scope, hscope, hshown⟩
  · intro hshown reviewer' hreviewer' sortOrder limit hlimit
    obtain ⟨scope, hscope, hshown⟩ := hshown
    obtain rfl : reviewer = reviewer' := Option.some.inj (hreviewer.symm.trans hreviewer')
    have hrow := List.mem_map_of_mem (f := db.kycApplicationRecord) (Table.mem_of_find? happ)
    obtain ⟨page, hpage, result, hresult, hr⟩ :=
      (KycService.exists_page_iff contains rank (.unfiltered reviewer.claims sortOrder limit) rfl
        hlimit).mpr ⟨scope, hscope, hrow, hshown, rfl⟩
    exact ⟨page, hpage, result, hresult, _, hr, hid⟩

theorem authorize_eq_ok_iff {r : Review} {signature : Signature} :
    KycService.authorize r = .ok signature ↔
      signature = .marketer ∧ r.reviewer.role = .marketer ∧
        r.session.marketerId = some r.reviewer.userId ∨
      signature = .admin ∧ (r.reviewer.role = .company ∧
          r.session.companyId = r.reviewer.companyId ∨
        r.reviewer.role = .admin ∧
          ∀ m ∈ r.marketer, m.createdById = some r.reviewer.userId) := by
  rw [KycService.authorize]
  cases hrole : r.reviewer.role with
  | marketer =>
    by_cases h : r.session.marketerId = some r.reviewer.userId <;> simp [h, eq_comm]
  | company =>
    by_cases h : r.session.companyId = r.reviewer.companyId <;> simp [h, eq_comm]
  | admin =>
    cases r.marketer with
    | none => simp [eq_comm]
    | some m => by_cases h : m.createdById = some r.reviewer.userId <;> simp [h, eq_comm]
  | superAdmin | customer => simp

theorem authorize_isOk_iff (r : Review) : (KycService.authorize r).isOk = true ↔
    r.reviewer.role = .marketer ∧ r.session.marketerId = some r.reviewer.userId ∨
    r.reviewer.role = .company ∧ r.session.companyId = r.reviewer.companyId ∨
    r.reviewer.role = .admin ∧ ∀ m ∈ r.marketer, m.createdById = some r.reviewer.userId := by
  simp only [isOk_iff, authorize_eq_ok_iff, exists_or, exists_eq_left]

theorem authorises_approve_iff {applicationId reviewerId : String} :
    (approve applicationId reviewerId).authorises db = true ↔
    ∃ reviewer application session, db.users.find? reviewerId = some reviewer ∧
      db.kycApplications.find? applicationId = some application ∧
      KycService.sessionOf application db = some session ∧
      (reviewer.role = .marketer ∧ session.marketerId = some reviewer.userId ∨
        reviewer.role = .company ∧ session.companyId = reviewer.companyId ∨
        reviewer.role = .admin ∧ ∀ m ∈ KycService.marketerOf (some session) db,
          m.createdById = some reviewer.userId) := by
  constructor
  · intro h
    obtain ⟨signature, h⟩ := isOk_iff.mp h
    obtain ⟨r, hopen, hauthorize⟩ := bind_eq_ok.mp h
    have hloaded := KycService.loaded_of_openReview hopen
    have hroles := (authorize_isOk_iff r).mp (isOk_iff.mpr ⟨signature, hauthorize⟩)
    rw [hloaded.marketer] at hroles
    exact ⟨r.reviewer, r.application, r.session, hloaded.reviewer, hloaded.application,
      hloaded.session, hroles⟩
  · intro h
    obtain ⟨reviewer, application, session, hreviewer, happ, hsession, hroles⟩ := h
    rw [authorises, hreviewer, KycService.loadApplication, happ, Option.map_some, hsession]
    exact (authorize_isOk_iff _).mpr hroles

theorem assertAssociated_isOk_iff (admin : User) (session : Option OnboardingSession)
    (marketer : Option User) : (KycService.assertAssociated admin session marketer).isOk = true ↔
    admin.role = .superAdmin ∨ ((session.bind OnboardingSession.marketerId).isSome →
      marketer.bind User.createdById = some admin.userId) := by
  rw [KycService.assertAssociated]
  cases session.bind OnboardingSession.marketerId with
  | none => simp [Except.isOk, Except.toBool]
  | some id =>
    by_cases hcreated : marketer.bind User.createdById = some admin.userId <;>
      by_cases hrole : admin.role = .superAdmin <;>
      simp [hcreated, hrole, Except.isOk, Except.toBool]

theorem authorises_reject_iff {applicationId reviewerId reason : String} :
    (reject applicationId reviewerId reason).authorises db = true ↔
    ∃ admin application, db.users.find? reviewerId = some admin ∧
      (admin.role = .admin ∨ admin.role = .superAdmin) ∧
      db.kycApplications.find? applicationId = some application ∧
      KycService.undecided application = true ∧
      (admin.role = .superAdmin ∨
        (((KycService.sessionOf application db).bind OnboardingSession.marketerId).isSome →
          (KycService.marketerOf (KycService.sessionOf application db) db).bind User.createdById =
            some admin.userId)) := by
  constructor
  · intro h
    obtain ⟨_, h⟩ := isOk_iff.mp h
    obtain ⟨admin, hadmin, h⟩ := bind_eq_ok.mp h
    obtain ⟨loaded, hloaded, hassociated⟩ := bind_eq_ok.mp h
    obtain ⟨hfind, hrole⟩ := KycService.assertRejecter_eq_ok hadmin
    obtain ⟨hload, hundecided⟩ := KycService.assertUndecided_eq_ok hloaded
    obtain ⟨application, happ, rfl⟩ := Option.map_eq_some_iff.mp hload
    exact ⟨admin, application, hfind, hrole, happ, hundecided,
      (assertAssociated_isOk_iff _ _ _).mp (isOk_iff.mpr ⟨_, hassociated⟩)⟩
  · intro h
    obtain ⟨admin, application, hfind, hrole, happ, hundecided, hassociated⟩ := h
    rw [authorises, KycService.assertRejecter, hfind, Option.filter_some,
      if_pos (decide_eq_true hrole), KycService.loadApplication, happ, Option.map_some,
      KycService.assertUndecided, Option.filter_some, if_pos hundecided]
    exact (assertAssociated_isOk_iff _ _ _).mpr hassociated

section roles
variable {session : OnboardingSession} {marketer : Option User} {record : KycApplicationRecord}

theorem visible_to_marketer (h : session.marketerId = some reviewer.userId) :
    KycService.assertVisible .marketer reviewer (some session) marketer = .ok () := by
  rw [KycService.assertVisible, if_neg]
  exact not_not.mpr h

theorem visible_to_staff_iff {role : Role} (hrole : role = .admin ∨ role = .company) :
    KycService.assertVisible role reviewer (some session) marketer = .ok () ↔
      (session.marketerId = none → session.companyId = reviewer.companyId) ∧
      (session.marketerId.isSome → marketer.bind User.createdById = some reviewer.userId) := by
  rcases hrole with rfl | rfl <;> cases hmarketer : session.marketerId <;>
    simp [KycService.assertVisible, hmarketer]

theorem listed_for_company_iff (hsession : record.onboardingSession = some session)
    (hcompany : session.companyId = reviewer.companyId) :
    (∃ scope, KycService.reviewScope reviewer.userId reviewer.companyId .company = .ok scope ∧
      scope record = true) ↔ reviewer.companyId.any fun c => c ≠ "" := by
  cases hid : reviewer.companyId with
  | none => simp [KycService.reviewScope]
  | some c =>
    by_cases hblank : c = ""
    · simp [KycService.reviewScope, Option.filter_some, hblank]
    · simp [KycService.reviewScope, Option.filter_some, hblank, hsession, hcompany, hid]

/-- An ADMIN's list shows the customers of those the ADMIN created, and the ADMIN's own. -/
theorem listed_for_admin_iff (hsession : record.onboardingSession = some session) :
    (∃ scope, KycService.reviewScope reviewer.userId reviewer.companyId .admin = .ok scope ∧
      scope record = true) ↔ record.marketer.bind User.createdById = some reviewer.userId ∨
        session.marketerId = some reviewer.userId := by
  simp [KycService.reviewScope, hsession, Option.any_eq_true, Option.bind_eq_some_iff]

end roles

/-- The reviewer is shown the document, and the application on the list. -/
def Sees (db : Database) (reviewer : User) (application : KycApplication) (documented : Prop) :
    Prop :=
  let session := KycService.sessionOf application db
  (documented → KycService.assertVisible reviewer.role reviewer session
    (KycService.marketerOf session db) = .ok ()) ∧
  ∃ scope, KycService.reviewScope reviewer.userId reviewer.companyId reviewer.role = .ok scope ∧
    scope (db.kycApplicationRecord application) = true

theorem sees_marketer {documented : Prop} {session : OnboardingSession}
    (hrole : reviewer.role = .marketer)
    (hsession : KycService.sessionOf application db = some session)
    (h : session.marketerId = some reviewer.userId) :
    Sees db reviewer application documented := by
  rw [Sees, hsession, hrole]
  refine ⟨fun _ => visible_to_marketer h, _, rfl, ?_⟩
  simp [Database.kycApplicationRecord, hsession, h]

theorem sees_admin_iff {documented : Prop} {session : OnboardingSession}
    (hrole : reviewer.role = .admin)
    (hreviewer : db.users.find? reviewer.userId = some reviewer)
    (hsession : KycService.sessionOf application db = some session)
    (hcreated : ∀ m ∈ KycService.marketerOf (some session) db,
      m.createdById = some reviewer.userId) :
    Sees db reviewer application documented ↔ (KycService.marketerOf (some session) db).isSome := by
  have hrecord : (db.kycApplicationRecord application).onboardingSession = some session := hsession
  have hjoined : (db.kycApplicationRecord application).marketer =
      KycService.marketerOf (some session) db := congrArg (KycService.marketerOf · db) hsession
  rw [Sees, hrole, listed_for_admin_iff hrecord, hjoined, hsession,
    visible_to_staff_iff (.inl rfl)]
  cases hmarketer : KycService.marketerOf (some session) db with
  | none =>
    -- the reviewer is a row, and so is not the referrer who is missing
    have hother : session.marketerId ≠ some reviewer.userId := by
      intro h
      rw [KycService.marketerOf, Option.bind_some, h, Option.bind_some, hreviewer] at hmarketer
      cases hmarketer
    simp [hother]
  | some m =>
    have hm := hcreated m hmarketer
    have hreferred : session.marketerId ≠ none := by
      intro h
      rw [KycService.marketerOf, Option.bind_some, h] at hmarketer
      cases hmarketer
    simp [hm, hreferred]

theorem sees_company_iff {documented : Prop} {session : OnboardingSession}
    (hrole : reviewer.role = .company)
    (hsession : KycService.sessionOf application db = some session)
    (hcompany : session.companyId = reviewer.companyId) :
    Sees db reviewer application documented ↔
      reviewer.companyId.any (fun c => c ≠ "") ∧ (documented → session.marketerId = none ∨
        (KycService.marketerOf (some session) db).bind User.createdById =
          some reviewer.userId) := by
  have hrecord : (db.kycApplicationRecord application).onboardingSession = some session := hsession
  rw [Sees, hrole, listed_for_company_iff hrecord hcompany, hsession,
    visible_to_staff_iff (.inr rfl), and_comm]
  refine and_congr_right fun _ => imp_congr_right fun _ => ?_
  cases hmarketer : session.marketerId with
  | none => simp [hcompany]
  | some id => simp

theorem sees_superAdmin {documented : Prop} (hrole : reviewer.role = .superAdmin) :
    Sees db reviewer application documented := by
  rw [Sees, hrole]
  exact ⟨fun _ => rfl, _, rfl, rfl⟩

/-- The same of a session that need not be there -/
theorem sees_rejecter_iff {documented : Prop} (hrole : reviewer.role = .admin)
    (hreviewer : db.users.find? reviewer.userId = some reviewer)
    (hassociated :
      ((KycService.sessionOf application db).bind OnboardingSession.marketerId).isSome →
        (KycService.marketerOf (KycService.sessionOf application db) db).bind User.createdById =
          some reviewer.userId) :
    Sees db reviewer application documented ↔
      ((KycService.sessionOf application db).bind OnboardingSession.marketerId).isSome := by
  cases hsession : KycService.sessionOf application db with
  | none =>
    have hjoined : (db.kycApplicationRecord application).onboardingSession = none := hsession
    simp [Sees, hrole, KycService.reviewScope, hjoined]
  | some session =>
    rw [hsession, Option.bind_some] at hassociated
    rw [Option.bind_some]
    cases hmarketer : KycService.marketerOf (some session) db with
    | none =>
      have hunreferred : session.marketerId.isSome = false := by
        by_contra h
        have hcreated := hassociated (Bool.eq_true_of_not_eq_false h)
        rw [hmarketer] at hcreated
        cases hcreated
      rw [sees_admin_iff hrole hreviewer hsession (by simp [hmarketer]), hmarketer, hunreferred]
      rfl
    | some m =>
      have hreferred : session.marketerId.isSome = true := by
        obtain ⟨id, hid, -⟩ := Option.bind_eq_some_iff.mp hmarketer
        exact Option.isSome_iff_exists.mpr ⟨id, hid⟩
      have hcreated := hassociated hreferred
      rw [hmarketer, Option.bind_some] at hcreated
      rw [sees_admin_iff hrole hreviewer hsession (by simpa [hmarketer] using hcreated),
        hmarketer, hreferred]
      rfl

/-- Whom a review authorises, opens the document and finds the application. -/
def AccessAgrees (generateSignedUrl : String → String) (contains : String → String → Bool)
    (rank : String → ℕ) (db : Database) (call : ReviewCall) : Prop :=
  call.authorises db = true →
    call.OpensDocument generateSignedUrl db ∧ call.FindsApplication contains rank db

theorem access_iff_sees (generateSignedUrl : String → String)
    (contains : String → String → Bool) (rank : String → ℕ)
    (hreviewer : db.users.find? call.reviewerId = some reviewer) (hrole : reviewer.role ≠ .customer)
    (happ : db.kycApplications.find? call.applicationId = some application) :
    call.OpensDocument generateSignedUrl db ∧ call.FindsApplication contains rank db ↔
      Sees db reviewer application (Documented call.applicationId db) :=
  and_congr (opensDocument_iff generateSignedUrl hreviewer hrole happ)
    (findsApplication_iff contains rank hreviewer happ)

theorem approve_agrees_iff (generateSignedUrl : String → String)
    (contains : String → String → Bool) (rank : String → ℕ) (applicationId reviewerId : String) :
    (approve applicationId reviewerId).AccessAgrees generateSignedUrl contains rank db ↔
      (approve applicationId reviewerId).InReach db := by
  constructor
  · intro hagrees reviewer hreviewer session hsession
    obtain ⟨application, happ, hsession⟩ := Option.bind_eq_some_iff.mp hsession
    have hkey := Table.find?_of_mem (Table.mem_of_find? hreviewer)
    refine ⟨fun hrole => ?_, fun hrole hcompany => ?_⟩
    · by_cases hcreated : ∀ m ∈ KycService.marketerOf (some session) db,
          m.createdById = some reviewer.userId
      · have haccess := hagrees (authorises_approve_iff.mpr ⟨reviewer, application, session,
          hreviewer, happ, hsession, .inr (.inr ⟨hrole, hcreated⟩)⟩)
        rw [access_iff_sees generateSignedUrl contains rank hreviewer (by simp [hrole]) happ]
          at haccess
        exact (sees_admin_iff hrole hkey hsession hcreated).mp haccess
      · -- a referrer whom another has created is there
        obtain ⟨m, hm⟩ := not_forall.mp hcreated
        exact Option.isSome_iff_exists.mpr ⟨m, (Classical.not_imp.mp hm).1⟩
    · have haccess := hagrees (authorises_approve_iff.mpr ⟨reviewer, application, session,
        hreviewer, happ, hsession, .inr (.inl ⟨hrole, hcompany⟩)⟩)
      rw [access_iff_sees generateSignedUrl contains rank hreviewer (by simp [hrole]) happ]
        at haccess
      exact (sees_company_iff hrole hsession hcompany).mp haccess
  · intro hreach hauthorises
    obtain ⟨reviewer, application, session, hreviewer, happ, hsession, hroles⟩ :=
      authorises_approve_iff.mp hauthorises
    have hkey := Table.find?_of_mem (Table.mem_of_find? hreviewer)
    obtain ⟨hadmin, hstaff⟩ := hreach reviewer hreviewer session
      (Option.bind_eq_some_iff.mpr ⟨application, happ, hsession⟩)
    have hreviews : reviewer.role ≠ .customer := by
      rcases hroles with ⟨hrole, -⟩ | ⟨hrole, -⟩ | ⟨hrole, -⟩ <;> simp [hrole]
    rw [access_iff_sees generateSignedUrl contains rank hreviewer hreviews happ]
    rcases hroles with ⟨hrole, hmarketer⟩ | ⟨hrole, hcompany⟩ | ⟨hrole, hcreated⟩
    · exact sees_marketer hrole hsession hmarketer
    · exact (sees_company_iff hrole hsession hcompany).mpr (hstaff hrole hcompany)
    · exact (sees_admin_iff hrole hkey hsession hcreated).mpr (hadmin hrole)

theorem reject_agrees_iff (generateSignedUrl : String → String)
    (contains : String → String → Bool) (rank : String → ℕ)
    (applicationId reviewerId reason : String) :
    (reject applicationId reviewerId reason).AccessAgrees generateSignedUrl contains rank db ↔
      (reject applicationId reviewerId reason).InReach db := by
  constructor
  · intro hagrees reviewer hreviewer hrole application happ hundecided
    by_contra hunreferred
    have hkey := Table.find?_of_mem (Table.mem_of_find? hreviewer)
    have hassociated : ((KycService.sessionOf application db).bind
        OnboardingSession.marketerId).isSome → (KycService.marketerOf
          (KycService.sessionOf application db) db).bind User.createdById = some reviewer.userId :=
      fun hreferred => absurd hreferred hunreferred
    have haccess := hagrees (authorises_reject_iff.mpr
      ⟨reviewer, application, hreviewer, .inl hrole, happ, hundecided, .inr hassociated⟩)
    rw [access_iff_sees generateSignedUrl contains rank hreviewer (by simp [hrole]) happ]
      at haccess
    exact hunreferred ((sees_rejecter_iff hrole hkey hassociated).mp haccess)
  · intro hreach hauthorises
    obtain ⟨reviewer, application, hreviewer, hroles, happ, hundecided, hassociated⟩ :=
      authorises_reject_iff.mp hauthorises
    have hkey := Table.find?_of_mem (Table.mem_of_find? hreviewer)
    have hreviews : reviewer.role ≠ .customer := by
      rcases hroles with hrole | hrole <;> simp [hrole]
    rw [access_iff_sees generateSignedUrl contains rank hreviewer hreviews happ]
    rcases hroles with hrole | hrole
    · exact (sees_rejecter_iff hrole hkey (hassociated.resolve_left (by simp [hrole]))).mpr
        (hreach reviewer hreviewer hrole application happ hundecided)
    · exact sees_superAdmin hrole

theorem authorises_of_succeeds {m : KycMoment} (h : call.succeeds m db = true) :
    call.authorises db = true := by
  cases call with
  | approve applicationId reviewerId =>
    obtain ⟨result, h⟩ := isOk_iff.mp h
    obtain ⟨r, hopen, h⟩ := bind_eq_ok.mp h
    obtain ⟨signature, hauthorize, -⟩ := bind_eq_ok.mp h
    exact isOk_iff.mpr ⟨signature, bind_eq_ok.mpr ⟨r, hopen, hauthorize⟩⟩
  | reject applicationId reviewerId reason =>
    obtain ⟨db', h⟩ := isOk_iff.mp h
    obtain ⟨admin, hadmin, h⟩ := bind_eq_ok.mp h
    obtain ⟨loaded, hloaded, h⟩ := bind_eq_ok.mp h
    obtain ⟨_, hassociated, -⟩ := bind_eq_ok.mp h
    exact isOk_iff.mpr ⟨_, bind_eq_ok.mpr ⟨admin, hadmin,
      bind_eq_ok.mpr ⟨loaded, hloaded, hassociated⟩⟩⟩

end ReviewCall

/-- A reviewer who may decide on an application opens its document and finds it on the list
exactly when it is in the reviewer's reach. -/
theorem access_agrees_iff (generateSignedUrl : String → String)
    (contains : String → String → Bool) (rank : String → ℕ) (call : ReviewCall) (db : Database) :
    call.AccessAgrees generateSignedUrl contains rank db ↔ call.InReach db := by
  cases call with
  | approve applicationId reviewerId =>
    exact ReviewCall.approve_agrees_iff generateSignedUrl contains rank applicationId reviewerId
  | reject applicationId reviewerId reason =>
    exact ReviewCall.reject_agrees_iff generateSignedUrl contains rank applicationId reviewerId
      reason

/-- The shop with two COMPANY users, one of whom has created the ADMIN. -/
def staffedShop : Database where
  users := ⟨[{ userId := "founder", role := .company, companyId := some "co", email := "f@co" },
    { userId := "partner", role := .company, companyId := some "co", email := "p@co" },
    { userId := "admin", role := .admin, companyId := some "co", createdById := some "founder" }],
    by decide⟩
  companies := shop.companies
  products := shop.products
  productVariants := shop.productVariants
  productInstallmentPlans := shop.productInstallmentPlans

/-- An application by the company's code, and one of a customer whom the ADMIN registers. -/
def appliedByCode : Database :=
  (saleBy { name := "Ada", email := "ada@x.y", password := "pw", companyCode := some "CODE" }
    []).foldl (SalesStep.apply id) staffedShop

def appliedByAdmin : Database :=
  [.registerDirect "admin" { name := "Ada", email := "ada@x.y", password := "pw" } "s" 0,
    .submitApplication noStorage "s" offer statementPdf saleMoment].foldl (SalesStep.apply id)
    staffedShop

/-- The ADMIN decides on what no list of his shows; the partner signs without the document. -/
theorem reviews_out_of_reach :
    ¬ (ReviewCall.approve "k" "admin").AccessAgrees id (fun _ _ => true) (fun _ => 0)
      appliedByCode ∧
    ¬ (ReviewCall.reject "k" "admin" "late").AccessAgrees id (fun _ _ => true) (fun _ => 0)
      appliedByCode ∧
    ¬ (ReviewCall.approve "k" "partner").AccessAgrees id (fun _ _ => true) (fun _ => 0)
      appliedByAdmin := by
  rw [ReviewCall.approve_agrees_iff, ReviewCall.reject_agrees_iff, ReviewCall.approve_agrees_iff]
  decide +kernel

end InstalFlow
