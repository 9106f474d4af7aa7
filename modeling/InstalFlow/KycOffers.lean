import InstalFlow.KycRecords

/-!
# The terms of a contract

An application names a product, a variant, an installment plan and, through its session,
a company. Each is looked up by itself, and only the variant is compared with the product.
-/

namespace InstalFlow
open Relational KycService

/-- The companies a session was registered for: its own, and that of its marketer. -/
def OnboardingSession.registeredFor (session : OnboardingSession) (db : Database)
    (companyId : String) : Bool :=
  session.companyId = some companyId ∨
    (session.marketerId.bind db.users.find?).bind User.companyId = some companyId

section offers
variable (session : OnboardingSession) (application : KycApplication)
  (contract : FinancingContract) (params : SubmitApplication) (db : Database)

/-- The contract has the price of a variant of the product and the terms of an active plan
of the product, and the product is one of a company the session was registered for. -/
structure OwnOffer : Prop where
  product : contract.productId = application.productId ∧
    (db.products.find? application.productId).any
      (fun product => product.companyId.any (session.registeredFor db)) = true
  variant : (db.productVariants.find? application.variantId).any (fun variant =>
    variant.productId = application.productId ∧
      contract.approvedProductPrice = variant.price) = true
  plan : (db.productInstallmentPlans.find? application.installmentPlanId).any (fun plan =>
    plan.productId = application.productId ∧ plan.active ∧
      contract.approvedInterestPercentage = plan.interestPercentage ∧
      contract.approvedDurationMonths = plan.durationMonths) = true

instance : Decidable (OwnOffer session application contract db) :=
  decidable_of_iff (_ ∧ _ ∧ _) ⟨fun h => ⟨h.1, h.2.1, h.2.2⟩, fun h => ⟨h.product, h.variant, h.plan⟩⟩

/-- What no statement compares: the plan is an active one of the product, and the product
is for sale by a company of the session. -/
def PlanAndSellerMatch : Prop :=
  (db.productInstallmentPlans.find? params.installmentPlanId).any
      (fun plan => plan.productId = params.productId ∧ plan.active) = true ∧
    (db.products.find? params.productId).any
      (fun product => product.companyId.any (session.registeredFor db)) = true

instance : Decidable (PlanAndSellerMatch session params db) :=
  inferInstanceAs (Decidable (_ ∧ _))

end offers

theorem findOffer_eq_ok {params : SubmitApplication} {db : Database}
    {plan : ProductInstallmentPlan} {variant : ProductVariant}
    (h : findOffer params db = .ok (plan, variant)) :
    db.productInstallmentPlans.find? params.installmentPlanId = some plan ∧
      db.productVariants.find? params.variantId = some variant ∧
      variant.productId = params.productId ∧ variant.isActive = true ∧
      ∃ product, db.products.find? params.productId = some product ∧
        (product.status = .published ∨ product.status = .soldOut) := by
  rw [findOffer] at h
  split at h
  · cases h
  · rename_i found hplan
    split at h
    · cases h
    · rename_i foundVariant hvariant
      split at h
      · cases h
      · rename_i hproduct
        split at h
        · cases h
        · rename_i hactive
          split at h
          · cases h
          · split at h
            · cases h
            · rename_i product hfind
              split at h
              · cases h
              · rename_i hstatus
                cases h
                exact ⟨hplan, hvariant, not_not.mp hproduct, by simpa using hactive, product,
                  hfind, by tauto⟩

/-- Every application that goes through has a contract, whose terms are the seller's own
offer exactly when plan and seller match the product. -/
theorem own_offer_iff {storage : Storage} {sessionId : String} {params : SubmitApplication}
    {file : UploadedPdfFile} {m : KycMoment} {db db' : Database} {application : KycApplication}
    (h : submitApplication storage sessionId params file m db = .ok (application, db')) :
    ∃ session contract, db.onboardingSessions.find? sessionId = some session ∧
      db'.financingContracts.find? m.contractId = some contract ∧
      contract.kycApplicationId = application.kycApplicationId ∧
      (OwnOffer session application contract db ↔ PlanAndSellerMatch session params db) := by
  obtain ⟨session, plan, variant, applications, contracts, assets, trail, hsession, hoffer, rfl,
    -, hcreate, -, rfl⟩ := submitApplication_eq_ok h
  obtain ⟨hplan, hvariant, hproduct, -⟩ := findOffer_eq_ok hoffer
  refine ⟨session, newContract params plan variant m, hsession, ?_, rfl, ?_⟩
  · exact (Table.find?_create hcreate m.contractId).trans (if_pos rfl)
  · constructor
    · intro hown
      have hterms := hown.plan
      rw [newApplication, hplan, Option.any_some] at hterms
      refine ⟨?_, hown.product.2⟩
      rw [hplan, Option.any_some]
      exact decide_eq_true ⟨(of_decide_eq_true hterms).1, (of_decide_eq_true hterms).2.1⟩
    · intro hmatch
      obtain ⟨hterms, hseller⟩ := hmatch
      rw [hplan, Option.any_some] at hterms
      refine ⟨⟨rfl, hseller⟩, ?_, ?_⟩
      · rw [newApplication, hvariant, Option.any_some]
        exact decide_eq_true ⟨hproduct, rfl⟩
      · rw [newApplication, hplan, Option.any_some]
        exact decide_eq_true ⟨(of_decide_eq_true hterms).1, (of_decide_eq_true hterms).2, rfl, rfl⟩

/-- Two merchants. The session is registered for the first one. -/
def rivalMerchants : Database where
  companies :=
    ⟨[{ companyId := "first", name := "First" }, { companyId := "rival", name := "Rival" }],
      by decide⟩
  onboardingSessions :=
    ⟨[{ sessionId := "visit", name := "Joy", email := "joy@mail", passwordHash := "hash"
        companyId := some "first", expiresAt := 100 }], by decide⟩
  products :=
    ⟨[{ productId := "stove", companyId := some "first", status := .published },
      { productId := "radio", companyId := some "rival", status := .published }], by decide⟩
  productVariants :=
    ⟨[{ variantId := "large", productId := "stove", price := 900, stockQuantity := 5 },
      { variantId := "small", productId := "radio", price := 50, stockQuantity := 5 }], by decide⟩
  productInstallmentPlans :=
    ⟨[{ planId := "year", productId := "stove", durationMonths := 12, interestPercentage := 30 },
      { planId := "gift", productId := "radio", durationMonths := 36, interestPercentage := 0
        active := false }], by decide⟩

/-- An application of the session, with its statement in a file. -/
def applyFor (productId variantId planId : String) : Except AppError (KycApplication × Database) :=
  submitApplication ⟨true, fun _ => .error "", fun _ => "sha"⟩ "visit"
    ⟨productId, variantId, planId, "NIN", "12345678901"⟩
    ⟨"bank.pdf", "/tmp/bank.pdf", 1000, "application/pdf"⟩
    { now := 10, applicationId := "form", contractId := "deed", assetId := "scan" } rivalMerchants

/-- The stove on its own plan: the contract has the terms of the seller. -/
theorem own_offer_stove : ∃ application db' session contract,
    applyFor "stove" "large" "year" = .ok (application, db') ∧
      db'.financingContracts.find? "deed" = some contract ∧
      OwnOffer session application contract rivalMerchants := by
  have hok : (applyFor "stove" "large" "year").isOk = true := by decide +kernel
  obtain ⟨accepted, h⟩ := isOk_iff.mp hok
  obtain ⟨session, contract, hsession, hcontract, -, hoffer⟩ := own_offer_iff h
  have hmatch : ∀ session ∈ rivalMerchants.onboardingSessions.find? "visit",
      PlanAndSellerMatch session ⟨"stove", "large", "year", "NIN", "12345678901"⟩
        rivalMerchants := by decide +kernel
  exact ⟨accepted.1, accepted.2, session, contract, h, hcontract,
    hoffer.mpr (hmatch session hsession)⟩

/-- Whether the contract of an accepted application is an own offer. -/
def ownOffer? (r : Except AppError (KycApplication × Database)) : Option Bool :=
  r.toOption.bind fun accepted =>
    (rivalMerchants.onboardingSessions.find? "visit").bind fun session =>
      (accepted.2.financingContracts.find? "deed").map fun contract =>
        decide (OwnOffer session accepted.1 contract rivalMerchants)

/-- The stove is financed on the withdrawn plan of the rival's radio, and the radio by a
session of the other company. -/
theorem rival_terms_accepted :
    ownOffer? (applyFor "stove" "large" "gift") = some false ∧
      ownOffer? (applyFor "radio" "small" "gift") = some false := by
  decide +kernel

end InstalFlow
