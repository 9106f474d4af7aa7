import InstalFlow.Relational.Fresh
import InstalFlow.ReviewAccess

/-!
# Applications that can be finished

Two approvals finish an application with a referrer, the referring MARKETER's and one of the
staff, and one of the staff any other. Each asks for a user of a role and of a relation to the
session; where there is none, no approvals of whatever users finish it.
-/

namespace InstalFlow
open Relational Transition KycService

/-- A call of `approveApplication` -/
structure Approval where
  reviewerId : String
  moment : KycMoment

def Approval.apply (applicationId : String) (db : Database) (a : Approval) : Database :=
  committed db Prod.snd (approveApplication applicationId a.reviewerId a.moment db)

/-- The application is APPROVED, its contract ACTIVE, and its customer a user. -/
structure FullyApproved (applicationId : String) (db : Database) : Prop where
  application : ∃ a ∈ db.kycApplications.find? applicationId, a.status = .approved ∧
    (a.userId.bind db.users.find?).isSome = true
  contract : ∃ c ∈ contractOf applicationId db, c.status = .active

/-- Some sequence of approvals finishes the application. -/
def CanFinish (applicationId : String) (db : Database) : Prop :=
  ∃ db', Reaches (Approval.apply applicationId) db db' ∧ FullyApproved applicationId db'

/-- A user of the session's company, or an ADMIN who has created its referrer if there is one -/
def LastSigner (session : OnboardingSession) (db : Database) (u : User) : Prop :=
  u.role = .company ∧ session.companyId = u.companyId ∨
  u.role = .admin ∧ ∀ marketer ∈ marketerOf (some session) db, marketer.createdById = some u.userId

/-- The application waits for the last signature, or for that of a referrer who is a MARKETER. -/
def AwaitsSignature (a : KycApplication) (session : OnboardingSession) (db : Database) : Prop :=
  if session.marketerId.isSome then
    a.status = .approvalProcessing ∧ a.marketerApproved = true ∨
      a.status = .pending ∧ ∃ marketer ∈ marketerOf (some session) db, marketer.role = .marketer
  else a.status = .pending

/-- The writes of the last approval go through: the e-mail is free, and the contract there, with
a schedule none of which is stored. -/
structure Activatable (applicationId : String) (session : OnboardingSession) (db : Database) :
    Prop where
  email : ∀ u ∈ db.users.rows, u.email ≠ session.email
  contract : ∃ c ∈ contractOf applicationId db, 0 < c.approvedDurationMonths ∧
    0 < c.totalFinanced ∧ ∀ i ∈ db.installments.rows, i.financingContractId = c.contractId →
      ¬ (0 < i.sequence ∧ (i.sequence : ℤ) ≤ c.approvedDurationMonths)

/-- Whoever is still to sign is there. -/
def Approvable (applicationId : String) (db : Database) : Prop :=
  ∃ a ∈ db.kycApplications.find? applicationId, ∃ session ∈ sessionOf a db,
    AwaitsSignature a session db ∧ (∃ u ∈ db.users.rows, LastSigner session db u) ∧
      Activatable applicationId session db

section decidable
variable (applicationId : String) (session : OnboardingSession) (a : KycApplication) (u : User)
  (db : Database)

instance : Decidable (FullyApproved applicationId db) :=
  decidable_of_iff ((∃ a ∈ db.kycApplications.find? applicationId, _ ∧ _) ∧
    ∃ c ∈ contractOf applicationId db, _) ⟨fun h => ⟨h.1, h.2⟩, fun h => ⟨h.application, h.contract⟩⟩

instance : Decidable (LastSigner session db u) := inferInstanceAs (Decidable (_ ∧ _ ∨ _ ∧ _))

instance : Decidable (AwaitsSignature a session db) :=
  inferInstanceAs (Decidable (if session.marketerId.isSome then _ ∨ (_ ∧ _) else _))

instance : Decidable (Activatable applicationId session db) :=
  decidable_of_iff ((∀ u ∈ db.users.rows, _) ∧ ∃ c ∈ contractOf applicationId db, _ ∧ _ ∧ _)
    ⟨fun h => ⟨h.1, h.2⟩, fun h => ⟨h.email, h.contract⟩⟩

instance : Decidable (Approvable applicationId db) :=
  inferInstanceAs (Decidable (∃ a ∈ db.kycApplications.find? applicationId,
    ∃ session ∈ sessionOf a db, _ ∧ (∃ u ∈ db.users.rows, _) ∧ _))

end decidable

section approvals
variable {applicationId reviewerId : String} {session : OnboardingSession} {a : KycApplication}
  {r : Review} {m : KycMoment} {contract : FinancingContract} {db db' : Database}

/-- An approval is the marketer's, who is the referrer of a pending application, or the last. -/
theorem approve_cases {result : KycApplicationStatus × Database}
    (h : approveApplication applicationId reviewerId m db = .ok result) :
    (∃ r : Review, r.Loaded applicationId reviewerId db ∧ r.application.status = .pending ∧
      r.reviewer.role = .marketer ∧ r.session.marketerId = some r.reviewer.userId ∧
      result.2 = recordMarketerApproval r m db) ∨
    ∃ (r : Review) (contract : FinancingContract), r.Loaded applicationId reviewerId db ∧
      LastSigner r.session db r.reviewer ∧ r.application.status = r.claimable ∧
      (r.requiresMarketerApproval = true → r.application.marketerApproved = true) ∧
      contractOf applicationId db = some contract ∧
      Activates r contract m (signAsAdmin r m db) result.2 := by
  obtain ⟨r, signature, hloaded, hauthorize, hassert, hcommit⟩ := approveApplication_eq_ok h
  rcases ReviewCall.authorize_eq_ok_iff.mp hauthorize with ⟨rfl, hrole, hmarketer⟩ | ⟨rfl, hstaff⟩
  · cases hcommit
    refine .inl ⟨r, hloaded, ?_, hrole, hmarketer, rfl⟩
    by_contra hstatus
    rw [assertApprovable, if_pos hstatus] at hassert
    cases hassert
  · obtain ⟨hstatus, hflag⟩ := assertApprovable_admin hassert
    have hid := Table.find?_key hloaded.application
    obtain ⟨application, happ, ⟨hne, -⟩ | ⟨-, contract, hcontract, hactivates, -⟩⟩ :=
      recordAdminApproval_eq_ok hcommit
    · rw [hid, hloaded.application] at happ
      cases happ
      exact absurd hstatus hne
    · rw [hid] at hcontract
      rw [hloaded.marketer] at hstaff
      exact .inr ⟨r, contract, hloaded, hstaff, hstatus, hflag, hcontract, hactivates⟩

theorem activatable_of_activates (hcontract : contractOf applicationId db = some contract)
    (h : Activates r contract m (signAsAdmin r m db) db') :
    Activatable applicationId r.session db where
  email := h.email
  contract := by
    obtain ⟨schedule, hschedule, -, hfree⟩ := h.installments
    obtain ⟨hmonths, htotal, -⟩ := InstallmentService.generateInstallmentSchedule_eq_ok.mp hschedule
    refine ⟨contract, hcontract, hmonths, htotal, fun i hi hid hsequence => ?_⟩
    -- the row of the schedule with the sequence of a stored installment is not free
    have hbound : i.sequence - 1 < contract.approvedDurationMonths.toNat := by omega
    have hrow := (InstallmentService.mem_schedule hschedule).mpr ⟨i.sequence - 1, hbound, rfl⟩
    refine InstallmentService.sequenceTaken_eq_false_iff.mp (hfree _ hrow) i hi hid ?_
    exact (Nat.sub_add_cancel hsequence.1).symm

theorem awaitsSignature_of_claimable (hstatus : r.application.status = r.claimable)
    (hflag : r.requiresMarketerApproval = true → r.application.marketerApproved = true) :
    AwaitsSignature r.application r.session db := by
  rw [Review.claimable, Review.requiresMarketerApproval] at hstatus
  rw [AwaitsSignature]
  split
  · rename_i hrequires
    rw [if_pos hrequires] at hstatus
    exact .inl ⟨hstatus, hflag hrequires⟩
  · rename_i hrequires
    rw [if_neg hrequires] at hstatus
    exact hstatus

theorem Review.Loaded.approvable (h : r.Loaded applicationId reviewerId db)
    (hawaits : AwaitsSignature r.application r.session db)
    (hsigner : ∃ u ∈ db.users.rows, LastSigner r.session db u)
    (hactivatable : Activatable applicationId r.session db) : Approvable applicationId db :=
  ⟨r.application, h.application, r.session, h.session, hawaits, hsigner, hactivatable⟩

theorem find?_marketerSigned (hloaded : r.Loaded applicationId reviewerId db) :
    (recordMarketerApproval r m db).kycApplications.find? applicationId =
      some (marketerSigned m.now r.application) := by
  refine (find?_updateApplication r.application.kycApplicationId (marketerSigned m.now)
    (fun _ => rfl) applicationId db).trans ?_
  rw [if_pos (Table.find?_key hloaded.application).symm, hloaded.application, Option.map_some]

/-- The signature of the referring marketer leaves the rest to be signed as it was. -/
theorem approvable_of_marketerSigned (hloaded : r.Loaded applicationId reviewerId db)
    (hstatus : r.application.status = .pending) (hrole : r.reviewer.role = .marketer)
    (hmarketer : r.session.marketerId = some r.reviewer.userId)
    (h : Approvable applicationId (recordMarketerApproval r m db)) :
    Approvable applicationId db := by
  obtain ⟨a, ha, session, hsession, -, hsigner, hactivatable⟩ := h
  cases (find?_marketerSigned hloaded).symm.trans ha
  have hsame : some session = some r.session := hsession.symm.trans hloaded.session
  cases hsame
  refine hloaded.approvable ?_ hsigner ⟨hactivatable.email, hactivatable.contract⟩
  have hreferrer : marketerOf (some r.session) db = some r.reviewer := by
    rw [marketerOf, Option.bind_some, hmarketer, Option.bind_some,
      Table.find?_key hloaded.reviewer]
    exact hloaded.reviewer
  rw [AwaitsSignature, hmarketer]
  exact .inr ⟨hstatus, r.reviewer, hreferrer, hrole⟩

theorem not_fullyApproved_marketerSigned (hloaded : r.Loaded applicationId reviewerId db) :
    ¬ FullyApproved applicationId (recordMarketerApproval r m db) := by
  intro h
  obtain ⟨a, ha, happroved, -⟩ := h.application
  cases (find?_marketerSigned hloaded).symm.trans ha
  cases happroved

/-- What an approval leads to was to be reached before it. -/
theorem approvable_of_apply (call : Approval)
    (h : FullyApproved applicationId (call.apply applicationId db) ∨
      Approvable applicationId (call.apply applicationId db)) :
    FullyApproved applicationId db ∨ Approvable applicationId db := by
  rw [Approval.apply] at h
  cases hcall : approveApplication applicationId call.reviewerId call.moment db with
  | error err =>
    rw [hcall] at h
    exact h
  | ok result =>
    rw [hcall, committed_ok] at h
    rcases approve_cases hcall with ⟨r, hloaded, hstatus, hrole, hmarketer, hresult⟩ |
      ⟨r, contract, hloaded, hsigner, hstatus, hflag, hcontract, hactivates⟩
    · rw [hresult] at h
      rcases h with h | h
      · exact absurd h (not_fullyApproved_marketerSigned hloaded)
      · exact .inr (approvable_of_marketerSigned hloaded hstatus hrole hmarketer h)
    · have hreviewer := Table.mem_of_find? hloaded.reviewer
      exact .inr (hloaded.approvable (awaitsSignature_of_claimable hstatus hflag)
        ⟨r.reviewer, hreviewer, hsigner⟩ (activatable_of_activates hcontract hactivates))

theorem approvable_of_canFinish (h : CanFinish applicationId db) :
    FullyApproved applicationId db ∨ Approvable applicationId db := by
  obtain ⟨db', ⟨calls, rfl⟩, hfull⟩ := h
  induction calls generalizing db with
  | nil => exact .inl hfull
  | cons call calls ih => exact approvable_of_apply call (ih hfull)

/-- What is made at random is new: the id of a user, of a referral and of installments, and
what a marketer's code is extended by. -/
structure FreshMoment (code : String) (m : KycMoment) (db : Database) : Prop where
  userId : db.users.find? m.userId = none
  referralId : db.referrals.find? m.referralId = none
  referralCode : ∀ s ∈ db.referrals.rows, s.referralCode ≠ "REF-" ++ code ++ "-" ++ m.randomHex
  installmentId : Function.Injective m.installmentId
  installments : ∀ n, db.installments.find? (m.installmentId n) = none

theorem exists_freshMoment (code : String) (db : Database) : ∃ m, FreshMoment code m db := by
  obtain ⟨userIds, -, husers⟩ := db.users.exists_fresh
  obtain ⟨referralIds, -, hreferrals⟩ := db.referrals.exists_fresh
  obtain ⟨installmentId, hinjective, hinstallments⟩ := db.installments.exists_fresh
  have hextend : Function.Injective fun hex : String => "REF-" ++ code ++ "-" ++ hex :=
    fun a b h => (String.append_right_inj _).mp h
  obtain ⟨randomHex, hcode⟩ :=
    exists_fresh_image hextend (db.referrals.rows.map Referral.referralCode)
  refine ⟨{ now := 0, userId := userIds 0, referralId := referralIds 0, randomHex, installmentId },
    husers 0, hreferrals 0, fun s hs he => hcode ?_, hinjective, hinstallments⟩
  exact List.mem_map.mpr ⟨s, hs, he⟩

theorem createReferral_isOk
    (hcode : ∀ marketer ∈ r.marketer, ∀ s ∈ db.referrals.rows, s.referralCode ≠
      "REF-" ++ marketer.referralCode.getD "null" ++ "-" ++ m.randomHex)
    (hid : db.referrals.find? m.referralId = none) :
    ∃ db', createReferral r m db = .ok db' := by
  cases hmarketerId : r.session.marketerId with
  | none => exact ⟨db, by rw [createReferral, hmarketerId]⟩
  | some marketerId =>
    cases hmarketer : r.marketer with
    | none => exact ⟨db, by rw [createReferral, hmarketerId, hmarketer]⟩
    | some marketer =>
      obtain ⟨referrals, hcreate⟩ := Table.create_isSome (t := db.referrals)
        (r := { referralId := m.referralId, marketerId
                referralCode := "REF-" ++ marketer.referralCode.getD "null" ++ "-" ++ m.randomHex })
        hid
      have hfree : ¬ db.referrals.rows.any (fun s => s.referralCode =
          "REF-" ++ marketer.referralCode.getD "null" ++ "-" ++ m.randomHex) = true := by
        simpa using hcode marketer hmarketer
      refine ⟨{ db with referrals }, ?_⟩
      rw [createReferral, hmarketerId, hmarketer]
      simp only [if_neg hfree, createRow_eq_ok.mpr hcreate]

theorem createUser_isOk (user : User) (conflict : AppError)
    (hemail : ∀ u ∈ db.users.rows, u.email ≠ user.email)
    (hid : db.users.find? user.userId = none) :
    ∃ users, AuthService.createUser user conflict db = .ok (user, { db with users }) := by
  obtain ⟨users, hcreate⟩ := Table.create_isSome hid
  have hfree : ¬ db.users.rows.any (fun u => u.email = user.email) = true := by
    simpa using hemail
  refine ⟨users, ?_⟩
  rw [AuthService.createUser, if_neg hfree, createRow_eq_ok.mpr hcreate]

theorem activate_isOk {code : String} (hm : FreshMoment code m db)
    (hcode : ∀ marketer ∈ r.marketer, marketer.referralCode.getD "null" = code)
    (hemail : ∀ u ∈ db.users.rows, u.email ≠ r.session.email)
    (hmonths : 0 < contract.approvedDurationMonths) (htotal : 0 < contract.totalFinanced)
    (hfree : ∀ i ∈ db.installments.rows, i.financingContractId = contract.contractId →
      ¬ (0 < i.sequence ∧ (i.sequence : ℤ) ≤ contract.approvedDurationMonths)) :
    ∃ db', activate r contract m db = .ok db' := by
  obtain ⟨users, huser⟩ := createUser_isOk (newUser r.session m.userId)
    (.uniqueViolation ["email"]) hemail hm.userId
  have hreferral (db' : Database) (hsame : db'.referrals = db.referrals) :
      ∃ db'', createReferral r m db' = .ok db'' := by
    refine createReferral_isOk (fun marketer hmarketer => ?_) (hsame ▸ hm.referralId)
    rw [hcode marketer hmarketer, hsame]
    exact hm.referralCode
  obtain ⟨schedule, hschedule⟩ : ∃ schedule, scheduleOf contract m.now = .ok schedule :=
    ⟨_, InstallmentService.generateInstallmentSchedule_eq_ok.mpr ⟨hmonths, htotal, rfl⟩⟩
  obtain ⟨db₂, hdb₂⟩ := hreferral { updateApplication r.application.kycApplicationId
      (approvedApplication m.userId) (fun _ => rfl) { db with users } with
    onboardingSessions := db.onboardingSessions.update r.session.sessionId approvedSession
      (fun _ => rfl) } rfl
  have hcreates : ∃ db₃, InstallmentService.createInstallments m.installmentId schedule db₂ =
      .ok db₃ := by
    obtain ⟨referrals, rfl⟩ := createReferral_eq_ok hdb₂
    refine InstallmentService.createInstallments_isOk hm.installmentId
      (InstallmentService.nodup_schedule hschedule) hm.installments fun row hrow => ?_
    obtain ⟨n, hn, rfl⟩ := (InstallmentService.mem_schedule hschedule).mp hrow
    refine InstallmentService.sequenceTaken_eq_false_iff.mpr fun i hi hid he => ?_
    have hn : n < contract.approvedDurationMonths.toNat := hn
    have he : i.sequence = n + 1 := he
    exact hfree i hi hid ⟨by omega, by omega⟩
  obtain ⟨db₃, hdb₃⟩ := hcreates
  exact ⟨_, bind_eq_ok.mpr ⟨_, huser, bind_eq_ok.mpr ⟨db₂, hdb₂, bind_eq_ok.mpr
    ⟨_, hschedule, bind_eq_ok.mpr ⟨db₃, hdb₃, rfl⟩⟩⟩⟩⟩

theorem find?_signAsAdmin (hloaded : r.Loaded applicationId reviewerId db) :
    (signAsAdmin r m db).kycApplications.find? applicationId =
      some (adminSigned r.requiresMarketerApproval m.now r.application) := by
  refine (find?_updateApplication r.application.kycApplicationId
    (adminSigned r.requiresMarketerApproval m.now)
    (adminSigned_kycApplicationId r.requiresMarketerApproval m.now) applicationId db).trans ?_
  rw [if_pos (Table.find?_key hloaded.application).symm, hloaded.application, Option.map_some]

theorem fullyApproved_of_activates (hloaded : r.Loaded applicationId reviewerId db)
    (hcontract : contractOf applicationId db = some contract)
    (h : Activates r contract m (signAsAdmin r m db) db') : FullyApproved applicationId db' where
  application := by
    have hid := Table.find?_key hloaded.application
    refine ⟨approvedApplication m.userId (adminSigned r.requiresMarketerApproval m.now
      r.application), ?_, rfl, ?_⟩
    · rw [h.applications]
      refine (find?_updateApplication r.application.kycApplicationId (approvedApplication m.userId)
        (fun _ => rfl) applicationId (signAsAdmin r m db)).trans ?_
      rw [if_pos hid.symm, find?_signAsAdmin hloaded, Option.map_some]
    · exact Option.isSome_iff_exists.mpr ⟨_, h.find?_newUser⟩
  contract := by
    refine ⟨activatedContract m.userId m.now contract, ?_, rfl⟩
    have hupdated := contractOf_updateMany (fun c => c.contractId = contract.contractId)
      (activatedContract m.userId m.now) (fun _ => rfl) (fun _ => rfl) applicationId db
    rw [hcontract, Option.map_some, if_pos (decide_eq_true rfl)] at hupdated
    rw [contractOf, h.contracts]
    exact hupdated

/-- The last signer finishes the application by one call. -/
theorem canFinish_of_lastSigner {u : User} (hu : u ∈ db.users.rows)
    (ha : db.kycApplications.find? applicationId = some a) (hsession : sessionOf a db = some session)
    (hstatus : a.status =
      if session.marketerId.isSome then KycApplicationStatus.approvalProcessing else .pending)
    (hflag : session.marketerId.isSome = true → a.marketerApproved = true)
    (hsigner : LastSigner session db u) (h : Activatable applicationId session db) :
    CanFinish applicationId db := by
  obtain ⟨contract, hcontract, hmonths, htotal, hfree⟩ := h.contract
  obtain ⟨m, hm⟩ := exists_freshMoment
    (((marketerOf (some session) db).bind User.referralCode).getD "null") db
  let r : Review :=
    { reviewer := u, application := a, session, fileHash := primaryFileHash applicationId db
      marketer := marketerOf (some session) db }
  have hopen : openReview (db.users.find? u.userId) (loadApplication applicationId db) = .ok r := by
    rw [Table.find?_of_mem hu, loadApplication, ha, Option.map_some, hsession]
    rfl
  have hloaded := loaded_of_openReview hopen
  have hcode : ∀ marketer ∈ r.marketer, marketer.referralCode.getD "null" =
      ((marketerOf (some session) db).bind User.referralCode).getD "null" := by
    intro marketer hmarketer
    have hmarketer : marketerOf (some session) db = some marketer := hmarketer
    rw [hmarketer, Option.bind_some]
  have hassert : assertApprovable r .admin = .ok () := by
    have hrequires : r.requiresMarketerApproval = session.marketerId.isSome := rfl
    rw [assertApprovable, hrequires]
    cases hsome : session.marketerId.isSome with
    | false =>
      rw [hsome] at hstatus
      exact if_neg (not_not.mpr hstatus)
    | true =>
      rw [hsome] at hstatus
      have happroved : r.application.marketerApproved = true := hflag hsome
      rw [if_pos rfl, happroved, if_neg (by decide)]
      exact if_neg (not_not.mpr hstatus)
  obtain ⟨db', hactivate⟩ : ∃ db', activate r contract m (signAsAdmin r m db) = .ok db' :=
    activate_isOk ⟨hm.userId, hm.referralId, hm.referralCode, hm.installmentId, hm.installments⟩
      hcode h.email hmonths htotal hfree
  have hcommit : recordAdminApproval r m db = .ok (.approved, db') := by
    have happ : db.kycApplications.find? r.application.kycApplicationId = some a := by
      rw [Table.find?_key hloaded.application]
      exact ha
    have hcontract' : contractOf r.application.kycApplicationId (signAsAdmin r m db) =
        some contract := by
      rw [Table.find?_key hloaded.application]
      exact hcontract
    have hclaim : a.status = r.claimable := hstatus
    rw [recordAdminApproval, happ]
    simp only [hcontract', hactivate]
    exact if_neg (not_not.mpr hclaim)
  have happrove : approveApplication applicationId u.userId m db = .ok (.approved, db') :=
    bind_eq_ok.mpr ⟨r, hopen, bind_eq_ok.mpr ⟨.admin,
      ReviewCall.authorize_eq_ok_iff.mpr (.inr ⟨rfl, hsigner⟩),
      bind_eq_ok.mpr ⟨(), hassert, hcommit⟩⟩⟩
  refine ⟨db', ⟨[⟨u.userId, m⟩], ?_⟩,
    fullyApproved_of_activates hloaded hcontract (activates_of_ok hactivate)⟩
  rw [run_cons, run_nil, Approval.apply, happrove, committed_ok]

theorem canFinish_of_apply (call : Approval)
    (h : CanFinish applicationId (call.apply applicationId db)) : CanFinish applicationId db := by
  obtain ⟨db', hreaches, hfull⟩ := h
  exact ⟨db', (reaches_step (Approval.apply applicationId) db call).trans hreaches, hfull⟩

/-- The referring marketer signs first. -/
theorem canFinish_of_marketer {marketer : User}
    (ha : db.kycApplications.find? applicationId = some a) (hsession : sessionOf a db = some session)
    (hstatus : a.status = .pending) (hmarketer : marketerOf (some session) db = some marketer)
    (hrole : marketer.role = .marketer) (hsigner : ∃ u ∈ db.users.rows, LastSigner session db u)
    (h : Activatable applicationId session db) : CanFinish applicationId db := by
  obtain ⟨id, hid, hfind⟩ := Option.bind_eq_some_iff.mp hmarketer
  have hid : session.marketerId = some id := hid
  have hkey := Table.find?_key hfind
  let m : KycMoment := { now := 0 }
  let r : Review :=
    { reviewer := marketer, application := a, session
      fileHash := primaryFileHash applicationId db, marketer := marketerOf (some session) db }
  have hopen : openReview (db.users.find? id) (loadApplication applicationId db) = .ok r := by
    rw [hfind, loadApplication, ha, Option.map_some, hsession]
    rfl
  have hauthorize : authorize r = .ok .marketer :=
    ReviewCall.authorize_eq_ok_iff.mpr (.inl ⟨rfl, hrole, hid.trans (congrArg some hkey.symm)⟩)
  have hassert : assertApprovable r .marketer = .ok () := if_neg (not_not.mpr hstatus)
  have happrove : approveApplication applicationId id m db =
      .ok (.approvalProcessing, recordMarketerApproval r m db) :=
    bind_eq_ok.mpr ⟨r, hopen, bind_eq_ok.mpr ⟨.marketer, hauthorize,
      bind_eq_ok.mpr ⟨(), hassert, rfl⟩⟩⟩
  refine canFinish_of_apply ⟨id, m⟩ ?_
  rw [Approval.apply, happrove, committed_ok]
  obtain ⟨u, hu, hlast⟩ := hsigner
  have hsome : session.marketerId.isSome = true := Option.isSome_iff_exists.mpr ⟨id, hid⟩
  exact canFinish_of_lastSigner hu (find?_marketerSigned (loaded_of_openReview hopen)) hsession
    (if_pos hsome).symm (fun _ => rfl) hlast ⟨h.email, h.contract⟩

theorem canFinish_of_approvable (h : Approvable applicationId db) :
    CanFinish applicationId db := by
  obtain ⟨a, ha, session, hsession, hawaits, hsigner, hactivatable⟩ := h
  rw [AwaitsSignature] at hawaits
  split at hawaits
  · rename_i hsome
    rcases hawaits with ⟨hstatus, hflag⟩ | ⟨hstatus, marketer, hmarketer, hrole⟩
    · obtain ⟨u, hu, hlast⟩ := hsigner
      exact canFinish_of_lastSigner hu ha hsession (hstatus.trans (if_pos hsome).symm)
        (fun _ => hflag) hlast hactivatable
    · exact canFinish_of_marketer ha hsession hstatus hmarketer hrole hsigner hactivatable
  · rename_i hnone
    obtain ⟨u, hu, hlast⟩ := hsigner
    exact canFinish_of_lastSigner hu ha hsession (hawaits.trans (if_neg hnone).symm)
      (fun hsome => absurd hsome hnone) hlast hactivatable

end approvals

/-- An application can be finished by approvals exactly when it is, or whoever is to sign is
there and the last approval's writes go through. -/
theorem canFinish_iff (applicationId : String) (db : Database) :
    CanFinish applicationId db ↔ FullyApproved applicationId db ∨ Approvable applicationId db := by
  refine ⟨approvable_of_canFinish, fun h => ?_⟩
  rcases h with h | h
  · exact ⟨db, reaches_self _ db, h⟩
  · exact canFinish_of_approvable h

/-- An active COMPANY user and an active ADMIN -/
def Staffed (companyId : String) (db : Database) : Prop :=
  ∀ role ∈ [Role.company, .admin], ∃ u ∈ db.users.rows, u.role = role ∧
    u.companyId = some companyId ∧ u.active = true ∧ u.deletedAt = none

instance (companyId : String) (db : Database) : Decidable (Staffed companyId db) :=
  inferInstanceAs (Decidable (∀ role ∈ [Role.company, .admin], ∃ u ∈ db.users.rows, _ ∧ _))

/-- The shop with a MARKETER whom a COMPANY user has created -/
def franchise : Database where
  users := ⟨[{ userId := "founder", role := .company, companyId := some "co" },
    { userId := "admin", role := .admin, companyId := some "co", email := "a@co" },
    { userId := "marketer", role := .marketer, companyId := some "co", email := "m@co"
      createdById := some "founder", referralCode := some "REF" }], by decide⟩
  companies := shop.companies
  products := shop.products
  productVariants := shop.productVariants
  productInstallmentPlans := shop.productInstallmentPlans

def appliedByReferral : Database :=
  run (SalesStep.apply id) franchise
    (saleBy { name := "Ada", email := "ada@x.y", password := "pw", referredByCode := some "REF" } [])

/-- A customer whom the ADMIN has registered waits for a MARKETER's signature that nobody can
give; the MARKETER of a COMPANY user signs, and nobody can after that. -/
theorem stuck_applications :
    (Staffed "co" appliedByAdmin ∧ ¬ CanFinish "k" appliedByAdmin) ∧
    Staffed "co" appliedByReferral ∧ ¬ CanFinish "k" appliedByReferral := by
  have hadmin : ¬ (FullyApproved "k" appliedByAdmin ∨ Approvable "k" appliedByAdmin) := by
    decide +kernel
  have hreferral : ¬ (FullyApproved "k" appliedByReferral ∨ Approvable "k" appliedByReferral) := by
    decide +kernel
  exact ⟨⟨by decide +kernel, fun h => hadmin (approvable_of_canFinish h)⟩, by decide +kernel,
    fun h => hreferral (approvable_of_canFinish h)⟩

/-- Without a referrer, one approval finishes the application. -/
example : CanFinish "k" appliedByCode :=
  canFinish_of_approvable (by decide +kernel)

end InstalFlow
