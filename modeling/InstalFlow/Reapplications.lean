import InstalFlow.KycOffers
import InstalFlow.Transition.Run

/-!
# Applying again

`persistApplication` refuses a session with a PENDING or an APPROVED application, the unique
index on the session any other one too. No review and no sweep takes the application of a
session away, so what a session may submit is one application for good.
-/

namespace InstalFlow
open Relational Transition KycService

/-- What a customer sends, and what uploads and the file system make of it -/
structure Submission where
  storage : Storage
  params : SubmitApplication
  file : UploadedPdfFile

namespace Submission

def submit (s : Submission) (sessionId : String) (m : KycMoment) (db : Database) :
    Except AppError (KycApplication × Database) :=
  submitApplication s.storage sessionId s.params s.file m db

/-- A document in order, for a product that is available, with an active plan and a variant in
stock; the ids of the new rows are free. -/
structure Valid (s : Submission) (m : KycMoment) (db : Database) : Prop where
  pdf : (assertPdf s.file).isOk = true
  uploads : (upload s.storage s.file).isOk = true
  plan : (db.productInstallmentPlans.find? s.params.installmentPlanId).any
    (fun plan => plan.active) = true
  variant : (db.productVariants.find? s.params.variantId).any (fun variant =>
    variant.productId = s.params.productId ∧ variant.isActive ∧ 0 < variant.stockQuantity) = true
  product : (db.products.find? s.params.productId).any (fun product =>
    product.status = .published ∨ product.status = .soldOut) = true
  applicationId : (db.kycApplications.find? m.applicationId).isNone = true
  contractId : (db.financingContracts.find? m.contractId).isNone = true
  assetId : (db.kycDocumentAssets.find? m.assetId).isNone = true

instance (s : Submission) (m : KycMoment) (db : Database) : Decidable (s.Valid m db) :=
  decidable_of_iff (_ ∧ _ ∧ _ ∧ _ ∧ _ ∧ _ ∧ _ ∧ _)
    ⟨fun h => ⟨h.1, h.2.1, h.2.2.1, h.2.2.2.1, h.2.2.2.2.1, h.2.2.2.2.2.1, h.2.2.2.2.2.2.1,
      h.2.2.2.2.2.2.2⟩,
    fun h => ⟨h.pdf, h.uploads, h.plan, h.variant, h.product, h.applicationId, h.contractId,
      h.assetId⟩⟩

end Submission

/-- The session is unexpired and not APPROVED, and has no application of a status that
`persistApplication` refuses. -/
structure MayApply (sessionId : String) (now : DateTime) (db : Database) : Prop where
  session : (db.onboardingSessions.find? sessionId).any (fun session =>
    now ≤ session.expiresAt ∧ session.status ≠ .approved) = true
  applications : ∀ a ∈ db.kycApplications.rows, a.onboardingSessionId = some sessionId →
    a.status ≠ .pending ∧ a.status ≠ .approved

instance (sessionId : String) (now : DateTime) (db : Database) :
    Decidable (MayApply sessionId now db) :=
  decidable_of_iff (_ ∧ _) ⟨fun h => ⟨h.1, h.2⟩, fun h => ⟨h.session, h.applications⟩⟩

/-- The session has led to an application, of whatever status. -/
def Applied (sessionId : String) (db : Database) : Prop :=
  ∃ a ∈ db.kycApplications.rows, a.onboardingSessionId = some sessionId

/-- The submission stores an application of the session. -/
def Submission.Commits (s : Submission) (sessionId : String) (m : KycMoment) (db : Database) : Prop :=
  ∃ application db', s.submit sessionId m db = .ok (application, db') ∧
    application ∈ db'.kycApplications.rows ∧ application.onboardingSessionId = some sessionId

section submissions
variable {s : Submission} {sessionId : String} {m : KycMoment} {db : Database}

theorem findSession_of_mayApply (h : MayApply sessionId m.now db) :
    ∃ session, findSession sessionId m.now db = .ok session ∧ session.sessionId = sessionId := by
  obtain ⟨session, hfind, hopen⟩ := (Option.any_eq_true _ _).mp h.session
  obtain ⟨hexpires, hstatus⟩ := of_decide_eq_true hopen
  refine ⟨session, ?_, Table.find?_key hfind⟩
  rw [findSession, hfind]
  exact (if_neg (not_lt.mpr hexpires)).trans (if_neg hstatus)

theorem findOffer_of_valid (h : s.Valid m db) :
    ∃ plan variant, findOffer s.params db = .ok (plan, variant) := by
  obtain ⟨plan, hplan, -⟩ := (Option.any_eq_true _ _).mp h.plan
  obtain ⟨variant, hvariant, hoffered⟩ := (Option.any_eq_true _ _).mp h.variant
  obtain ⟨hproduct, hactive, hstock⟩ := of_decide_eq_true hoffered
  obtain ⟨product, hfind, havailable⟩ := (Option.any_eq_true _ _).mp h.product
  have hstatus := of_decide_eq_true havailable
  refine ⟨plan, variant, ?_⟩
  have hinactive : ¬ (!variant.isActive) = true := by
    rw [hactive]
    exact Bool.false_ne_true
  have hunavailable : ¬ (product.status ≠ .published ∧ product.status ≠ .soldOut) := by
    rintro ⟨hpublished, hsoldOut⟩
    exact hstatus.elim hpublished hsoldOut
  rw [findOffer, hplan]
  simp only [hvariant]
  rw [if_neg (not_not.mpr hproduct), if_neg hinactive, if_neg (not_le.mpr hstock)]
  simp only [hfind]
  rw [if_neg hunavailable]

theorem createApplication_of_fresh (application : KycApplication) (contract : FinancingContract)
    (asset : KycDocumentAsset)
    (happlied : ∀ a ∈ db.kycApplications.rows,
      a.onboardingSessionId ≠ application.onboardingSessionId)
    (happlication : db.kycApplications.find? application.kycApplicationId = none)
    (hcontract : db.financingContracts.find? contract.contractId = none)
    (hasset : db.kycDocumentAssets.find? asset.assetId = none) :
    ∃ db', createApplication application contract asset db = .ok db' := by
  obtain ⟨applications, happlications⟩ := Table.create_isSome happlication
  obtain ⟨contracts, hcontracts⟩ := Table.create_isSome hcontract
  obtain ⟨assets, hassets⟩ := Table.create_isSome hasset
  have hfree : ¬ db.kycApplications.rows.any
      (fun a => a.onboardingSessionId = application.onboardingSessionId) = true := by
    simpa using happlied
  rw [createApplication, if_neg hfree]
  exact ⟨_, bind_eq_ok.mpr ⟨applications, createRow_eq_ok.mpr happlications,
    bind_eq_ok.mpr ⟨contracts, createRow_eq_ok.mpr hcontracts,
      bind_eq_ok.mpr ⟨assets, createRow_eq_ok.mpr hassets, rfl⟩⟩⟩⟩

/-- The unique index alone decides over a valid submission. -/
theorem commits_iff (hmay : MayApply sessionId m.now db) (hvalid : s.Valid m db) :
    s.Commits sessionId m db ↔ ¬ Applied sessionId db := by
  constructor
  · rintro ⟨application, db', hsubmit, -, -⟩ ⟨a, ha, hlink⟩
    obtain ⟨_, _, _, _, _, _, _, -, -, -, -, -, hfree, -⟩ := submitApplication_eq_ok hsubmit
    exact hfree a ha hlink
  · intro hfirst
    have hfree : ∀ a ∈ db.kycApplications.rows, a.onboardingSessionId ≠ some sessionId :=
      fun a ha hlink => hfirst ⟨a, ha, hlink⟩
    obtain ⟨session, hsession, rfl⟩ := findSession_of_mayApply hmay
    obtain ⟨plan, variant, hoffer⟩ := findOffer_of_valid hvalid
    obtain ⟨uploadResult, hupload⟩ := isOk_iff.mp hvalid.uploads
    obtain ⟨_, hpdf⟩ := isOk_iff.mp hvalid.pdf
    have hnone : ¬ db.kycApplications.rows.any (fun a => a.onboardingSessionId =
        some session.sessionId ∧ (a.status = .pending ∨ a.status = .approved)) = true := by
      simp only [List.any_eq_true, decide_eq_true_eq, not_exists, not_and]
      exact fun a ha hlink => absurd hlink (hfree a ha)
    obtain ⟨db₁, hcreate⟩ := createApplication_of_fresh
      (newApplication session.sessionId s.params m) (newContract s.params plan variant m)
      { assetId := m.assetId, kycApplicationId := m.applicationId
        cloudinaryPublicId := uploadResult.publicId, secureUrl := uploadResult.url
        fileSize := s.file.size, mimeType := s.file.mimetype
        fileHash := s.storage.fileHash s.file.path
        scheduledDeletionAt := DateTime.addDays m.now 15 }
      hfree (Option.isNone_iff_eq_none.mp hvalid.applicationId)
      (Option.isNone_iff_eq_none.mp hvalid.contractId)
      (Option.isNone_iff_eq_none.mp hvalid.assetId)
    obtain ⟨applications, _, _, happlications, -, rfl, -⟩ := createApplication_eq_ok hcreate
    have hpersist : ∃ db', persistApplication session s.params uploadResult
        (s.storage.fileHash s.file.path) s.file m db =
          .ok (newApplication session.sessionId s.params m, db') ∧
        db'.kycApplications = applications := by
      rw [persistApplication, if_neg hnone]
      exact ⟨_, bind_eq_ok.mpr ⟨(plan, variant), hoffer, bind_eq_ok.mpr ⟨_, hcreate, rfl⟩⟩, rfl⟩
    obtain ⟨db', hpersist, hrows⟩ := hpersist
    refine ⟨newApplication session.sessionId s.params m, db', ?_, ?_, rfl⟩
    · exact bind_eq_ok.mpr ⟨session, hsession, bind_eq_ok.mpr ⟨_, hpdf,
        bind_eq_ok.mpr ⟨uploadResult, hupload, hpersist⟩⟩⟩
    · rw [hrows, (Table.create_eq_some happlications).2]
      exact List.mem_append_right _ (List.mem_singleton_self _)

theorem Applied.of_keeps {db' : Database} (h : Applied sessionId db) (hkeeps : db.Keeps db') :
    Applied sessionId db' := by
  obtain ⟨a, ha, hlink⟩ := h
  obtain ⟨a', ha', hsame⟩ := Option.map_eq_some_iff.mp
    (hkeeps.applications a.kycApplicationId a (Table.find?_of_mem ha))
  have hlink' : a'.onboardingSessionId = a.onboardingSessionId :=
    (congrArg KycApplication.onboardingSessionId hsame :)
  exact ⟨a', Table.mem_of_find? ha', hlink'.trans hlink⟩

end submissions

/-- Submissions, reviews and sweeps: each as a whole, or one transaction of those that are
interleaved -/
inductive ApplicationEvent
  | submit (s : Submission) (sessionId : String) (m : KycMoment)
  | operation (op : KycOperation) (m : KycMoment)
  | transaction (w : KycWrite) (m : KycMoment)

namespace ApplicationEvent

def apply (db : Database) : ApplicationEvent → Database
  | submit s sessionId m => committed db Prod.snd (s.submit sessionId m db)
  | operation op m => (op.program.run.complete KycWrite.execute m db).1
  | transaction w m => w.execute m db

/-- A valid submission of a session that may apply commits. -/
def Reapplies (db : Database) : ApplicationEvent → Prop
  | submit s sessionId m => MayApply sessionId m.now db → s.Valid m db → s.Commits sessionId m db
  | _ => True

/-- It is the first of its session. -/
def First (db : Database) : ApplicationEvent → Prop
  | submit s sessionId m => MayApply sessionId m.now db → s.Valid m db → ¬ Applied sessionId db
  | _ => True

theorem reapplies_iff (db : Database) (e : ApplicationEvent) : e.Reapplies db ↔ e.First db := by
  cases e with
  | submit s sessionId m => exact forall₂_congr commits_iff
  | operation op m => exact Iff.rfl
  | transaction w m => exact Iff.rfl

/-- Reviews and sweeps free no session. -/
theorem applied_apply {sessionId : String} {db : Database} (h : Applied sessionId db)
    (e : ApplicationEvent) : Applied sessionId (e.apply db) := by
  cases e with
  | submit s other m =>
    exact committed_rule (P := Applied sessionId) h fun result hsubmit =>
      h.of_keeps (keeps_submitApplication hsubmit)
  | operation op m =>
    exact Program.complete_invariant (P := Applied sessionId)
      (fun db w h => h.of_keeps (w.keeps_execute m db)) op.program.run h
  | transaction w m => exact h.of_keeps (w.keeps_execute m db)

end ApplicationEvent

/-- In every run the valid submissions commit exactly when each is the first of its session; a
session that has led to an application stays as it is, whatever becomes of the application. -/
theorem reapplication_iff (db : Database) (es : List ApplicationEvent) :
    (Along ApplicationEvent.apply (fun db e => e.Reapplies db) db es ↔
      Along ApplicationEvent.apply (fun db e => e.First db) db es) ∧
      ∀ sessionId, Applied sessionId db →
        Throughout ApplicationEvent.apply (Applied sessionId) db es := by
  refine ⟨⟨fun h => h.imp fun db e => (e.reapplies_iff db).mp,
    fun h => h.imp fun db e => (e.reapplies_iff db).mpr⟩, fun sessionId h => ?_⟩
  exact Along.throughout (C := fun _ _ => True) (fun db e h _ => ApplicationEvent.applied_apply h e)
    h (along_of_forall (fun _ _ => trivial) db es)

def statementsInTest : Storage where
  test := true
  uploadPdf _ := .error "no storage"
  fileHash _ := "c0ffee"

def bedApplication : Submission where
  storage := statementsInTest
  params := { productId := "BED", variantId := "BED-1", installmentPlanId := "BED-6"
              idType := "NIN", idNumber := "123" }
  file := { originalname := "may.pdf", path := "may.pdf", size := 4096
            mimetype := "application/pdf" }

def bedMoment (n : ℕ) : KycMoment where
  now := n
  applicationId := s!"K{n}"
  contractId := s!"C{n}"
  assetId := s!"A{n}"

/-- An open session and a bed that can be applied for -/
def bedShop : Database where
  users := ⟨[{ userId := "SUE", role := .superAdmin }], by decide⟩
  products := ⟨[{ productId := "BED", status := .published }], by decide⟩
  productVariants := ⟨[{ variantId := "BED-1", productId := "BED", stockQuantity := 2 }],
    by decide⟩
  productInstallmentPlans := ⟨[{ planId := "BED-6", productId := "BED", durationMonths := 6 }],
    by decide⟩
  onboardingSessions := ⟨[{ sessionId := "S1", name := "Ola", email := "ola@x.y"
                            passwordHash := "h", expiresAt := 99 }], by decide⟩

/-- The application is rejected, and another sent. -/
def rejectedFirst : List ApplicationEvent :=
  [.submit bedApplication "S1" (bedMoment 1), .operation (.reject "K1" "SUE" "Blurred") (bedMoment 2)]

/-- The session may apply, the next submission is valid, and the index refuses it. -/
theorem rejected_for_good :
    ((run ApplicationEvent.apply bedShop rejectedFirst).kycApplications.rows.map fun a =>
      (a.onboardingSessionId, a.status)) = [(some "S1", .rejected)] ∧
    MayApply "S1" 3 (run ApplicationEvent.apply bedShop rejectedFirst) ∧
    bedApplication.Valid (bedMoment 3) (run ApplicationEvent.apply bedShop rejectedFirst) ∧
    ¬ (ApplicationEvent.submit bedApplication "S1" (bedMoment 3)).Reapplies
      (run ApplicationEvent.apply bedShop rejectedFirst) := by
  have hmay : MayApply "S1" 3 (run ApplicationEvent.apply bedShop rejectedFirst) := by
    decide +kernel
  have hvalid : bedApplication.Valid (bedMoment 3)
      (run ApplicationEvent.apply bedShop rejectedFirst) := by decide +kernel
  have hrefused : (bedApplication.submit "S1" (bedMoment 3)
      (run ApplicationEvent.apply bedShop rejectedFirst)).isOk = false := by decide +kernel
  refine ⟨by decide +kernel, hmay, hvalid, fun hreapplies => ?_⟩
  obtain ⟨application, db', hsubmit, -⟩ := hreapplies hmay hvalid
  rw [hsubmit] at hrefused
  cases hrefused

end InstalFlow
