import InstalFlow.HiddenProducts
import InstalFlow.KycDecisions

/-!
# Variants that contracts finance

A contract starts with an active variant of its product. Taking a variant off or deleting it
looks for contracts first; an update of the variant does not. A product is archived whatever
is financed, and its variants are not changed by that.
-/

namespace InstalFlow
open Relational Transition

inductive FinancingStep
  | submitApplication (storage : Storage) (sessionId : String) (params : SubmitApplication)
      (file : UploadedPdfFile) (m : KycMoment)
  | approveApplication (applicationId reviewerId : String) (m : KycMoment)
  | catalogue (e : CatalogueStep)

namespace FinancingStep

def apply (db : Database) : FinancingStep → Database
  | submitApplication storage sessionId params file m =>
      committed db Prod.snd (KycService.submitApplication storage sessionId params file m db)
  | approveApplication applicationId reviewerId m =>
      committed db Prod.snd (KycService.approveApplication applicationId reviewerId m db)
  | catalogue e => e.apply db

/-- An update that switches a variant off finds no live contract on it. -/
def SwitchesOffUnfinanced (db : Database) : FinancingStep → Prop
  | catalogue (.updateVariant variantId data caller) => data.isActive = some false →
      (VariantService.updateVariant variantId data caller db).isOk = true →
        VariantService.financed variantId db = false
  | _ => True

instance (db : Database) : ∀ e : FinancingStep, Decidable (e.SwitchesOffUnfinanced db)
  | catalogue (.updateVariant _ _ _) => inferInstanceAs (Decidable (_ → _ → _))
  | submitApplication _ _ _ _ _ | approveApplication _ _ _ | catalogue (.addVariant _ _ _)
  | catalogue (.bulkCreateVariants _ _ _ _) | catalogue (.updateVariantStock _ _ _)
  | catalogue (.deactivateVariant _ _ _) | catalogue (.removeVariant _ _)
  | catalogue (.updateProduct _ _ _) | catalogue (.deleteProduct _ _) =>
      inferInstanceAs (Decidable True)

end FinancingStep

namespace Database

def hasActive (db : Database) (variantId : String) : Bool :=
  (db.productVariants.find? variantId).any ProductVariant.isActive

/-- The variant of a contract in ACTIVE or PENDING_ACTIVATION exists and is active. -/
def KeepsFinanced (db : Database) : Prop :=
  ∀ c ∈ db.financingContracts.rows, c.status.activeOrPending = true →
    ∀ variantId ∈ c.variantId, db.hasActive variantId = true

instance (db : Database) : Decidable db.KeepsFinanced :=
  inferInstanceAs (Decidable (∀ c ∈ db.financingContracts.rows, _ → ∀ variantId ∈ c.variantId, _))

/-- An application under review has a contract in ACTIVE or PENDING_ACTIVATION. -/
def ReviewsLive (db : Database) : Prop :=
  ∀ c ∈ db.financingContracts.rows, ∃ a ∈ db.kycApplications.find? c.kycApplicationId,
    KycService.undecided a = true → c.status.activeOrPending = true

instance (db : Database) : Decidable db.ReviewsLive :=
  inferInstanceAs (Decidable (∀ c ∈ db.financingContracts.rows,
    ∃ a ∈ db.kycApplications.find? c.kycApplicationId, _ → _))

end Database

/-- What an approval does to contracts: those it activates have been under review. -/
structure ActivatesReviewed (db db' : Database) : Prop where
  variants : db'.productVariants = db.productVariants
  applications : ∀ k, ∀ a ∈ db.kycApplications.find? k, ∃ a' ∈ db'.kycApplications.find? k,
    KycService.undecided a' = true → KycService.undecided a = true
  contracts : ∀ c' ∈ db'.financingContracts.rows, ∃ c ∈ db.financingContracts.rows,
    c'.variantId = c.variantId ∧ c'.kycApplicationId = c.kycApplicationId ∧
      (c'.status = c.status ∨ c'.status = .active ∧
        ∀ a ∈ db.kycApplications.find? c.kycApplicationId, KycService.undecided a = true)

section approvals
variable {db db' : Database}

theorem ActivatesReviewed.keeps (h : ActivatesReviewed db db') (hlive : db.ReviewsLive)
    (hkeeps : db.KeepsFinanced) : db'.ReviewsLive ∧ db'.KeepsFinanced := by
  have hstatus : ∀ c' ∈ db'.financingContracts.rows, ∃ c ∈ db.financingContracts.rows,
      c'.variantId = c.variantId ∧ c'.kycApplicationId = c.kycApplicationId ∧
        c'.status.activeOrPending = c.status.activeOrPending := by
    intro c' hc'
    obtain ⟨c, hc, hvariant, happ, hsame | ⟨hactive, hreviewed⟩⟩ := h.contracts c' hc'
    · exact ⟨c, hc, hvariant, happ, by rw [hsame]⟩
    · obtain ⟨a, ha, hawaits⟩ := hlive c hc
      exact ⟨c, hc, hvariant, happ, by rw [hactive, hawaits (hreviewed a ha)]; rfl⟩
  constructor
  · intro c' hc'
    obtain ⟨c, hc, -, happ, hsame⟩ := hstatus c' hc'
    obtain ⟨a, ha, hawaits⟩ := hlive c hc
    obtain ⟨a', ha', hundecided⟩ := h.applications _ a ha
    exact ⟨a', happ ▸ ha', fun h' => hsame.trans (hawaits (hundecided h'))⟩
  · intro c' hc' hactive variantId hid
    obtain ⟨c, hc, hvariant, -, hsame⟩ := hstatus c' hc'
    rw [Database.hasActive, h.variants]
    exact hkeeps c hc (hsame.symm.trans hactive) variantId (hvariant ▸ hid)

namespace KycService
variable {r : Review} {m : KycMoment}

theorem activatesReviewed_recordMarketerApproval
    (h : ∀ a ∈ db.kycApplications.find? r.application.kycApplicationId, undecided a = true) :
    ActivatesReviewed db (recordMarketerApproval r m db) where
  variants := rfl
  applications k a ha := by
    have happ := find?_updateApplication r.application.kycApplicationId (marketerSigned m.now)
      (fun _ => rfl) k db
    refine ⟨_, happ.trans (congrArg _ ha), fun hundecided => ?_⟩
    by_cases hk : k = r.application.kycApplicationId
    · exact h a (hk ▸ ha)
    · rwa [if_neg hk] at hundecided
  contracts c hc := ⟨c, hc, rfl, rfl, .inl rfl⟩

theorem activatesReviewed_signAsAdmin : ActivatesReviewed db (signAsAdmin r m db) where
  variants := rfl
  applications k a ha := by
    have happ := find?_updateApplication r.application.kycApplicationId
      (adminSigned r.requiresMarketerApproval m.now)
      (adminSigned_kycApplicationId r.requiresMarketerApproval m.now) k db
    refine ⟨_, happ.trans (congrArg _ ha), fun hundecided => ?_⟩
    by_cases hk : k = r.application.kycApplicationId
    · rw [if_pos hk] at hundecided
      rwa [undecided, adminSigned_status] at hundecided
    · rwa [if_neg hk] at hundecided
  contracts c hc := ⟨c, hc, rfl, rfl, .inl rfl⟩

/-- The contract activated is the one of an application under review. -/
theorem Activates.activatesReviewed {contract : FinancingContract}
    (h : Activates r contract m db db')
    (hcontract : contractOf r.application.kycApplicationId db = some contract)
    (hreviewed : ∀ a ∈ db.kycApplications.find? r.application.kycApplicationId,
      undecided a = true) : ActivatesReviewed db db' where
  variants := by
    obtain ⟨referrals, assets, hdb⟩ := h.elsewhere
    rw [hdb]
  applications k a ha := by
    have happ : db'.kycApplications.find? k = _ := (congrArg (fun t => t.find? k) h.applications).trans
      (find?_updateApplication r.application.kycApplicationId (approvedApplication m.userId)
        (fun _ => rfl) k db)
    refine ⟨_, happ.trans (congrArg _ ha), fun hundecided => ?_⟩
    by_cases hk : k = r.application.kycApplicationId
    · exact hreviewed a (hk ▸ ha)
    · rwa [if_neg hk] at hundecided
  contracts c' hc' := by
    rw [h.contracts] at hc'
    rcases Table.mem_update_iff.mp hc' with ⟨hc, -⟩ | ⟨c, hc, hid, rfl⟩
    · exact ⟨c', hc, rfl, rfl, .inl rfl⟩
    · obtain ⟨hmem, happ⟩ := contractOf_eq_some hcontract
      have hsame : c = contract := Table.key_injective hc hmem hid
      refine ⟨c, hc, rfl, rfl, .inr ⟨rfl, ?_⟩⟩
      rw [hsame, happ]
      exact hreviewed

end KycService

theorem ActivatesReviewed.trans {db'' : Database} (h : ActivatesReviewed db db')
    (h' : ActivatesReviewed db' db'') : ActivatesReviewed db db'' where
  variants := h'.variants.trans h.variants
  applications k a ha := by
    obtain ⟨a', ha', hundecided⟩ := h.applications k a ha
    obtain ⟨a'', ha'', hundecided'⟩ := h'.applications k a' ha'
    exact ⟨a'', ha'', fun h'' => hundecided (hundecided' h'')⟩
  contracts c'' hc'' := by
    obtain ⟨c', hc', hvariant', happ', hstatus'⟩ := h'.contracts c'' hc''
    obtain ⟨c, hc, hvariant, happ, hstatus⟩ := h.contracts c' hc'
    refine ⟨c, hc, hvariant'.trans hvariant, happ'.trans happ, ?_⟩
    rcases hstatus' with hsame | ⟨hactive, hreviewed⟩
    · rwa [hsame]
    · refine .inr ⟨hactive, fun a ha => ?_⟩
      obtain ⟨a', ha', hundecided⟩ := h.applications _ a ha
      exact hundecided (hreviewed a' (happ ▸ ha'))

namespace KycService
variable {m : KycMoment}

theorem activatesReviewed_approveApplication {applicationId reviewerId : String}
    {result : KycApplicationStatus × Database}
    (h : approveApplication applicationId reviewerId m db = .ok result) :
    ActivatesReviewed db result.2 := by
  obtain ⟨r, signature, hloaded, -, hassert, hcommit⟩ := approveApplication_eq_ok h
  have hid := Table.find?_key hloaded.application
  have hreviewed : ∀ a ∈ db.kycApplications.find? r.application.kycApplicationId,
      undecided r.application = true → undecided a = true := by
    intro a ha hundecided
    rw [hid, hloaded.application] at ha
    cases ha
    exact hundecided
  cases signature with
  | marketer =>
    cases hcommit
    rw [assertApprovable] at hassert
    split at hassert
    · cases hassert
    · rename_i hpending
      refine activatesReviewed_recordMarketerApproval fun a ha => hreviewed a ha ?_
      rw [undecided, not_not.mp hpending]
      rfl
  | admin =>
    obtain ⟨application, hfind, ⟨-, rfl⟩ | ⟨hstatus, contract, hcontract, hactivates, -⟩⟩ :=
      recordAdminApproval_eq_ok hcommit
    · exact activatesReviewed_signAsAdmin
    · refine activatesReviewed_signAsAdmin.trans (hactivates.activatesReviewed hcontract ?_)
      intro a ha
      obtain ⟨b, hb, rfl⟩ := Option.map_eq_some_iff.mp
        ((find?_signAsAdmin r m db).symm.trans ha)
      rw [hfind] at hb
      cases hb
      exact undecided_of_claimable hstatus

/-- A new contract finances an active variant. -/
theorem submitApplication_keeps {storage : Storage} {sessionId : String}
    {params : SubmitApplication} {file : UploadedPdfFile} {result : KycApplication × Database}
    (h : submitApplication storage sessionId params file m db = .ok result)
    (hlive : db.ReviewsLive) (hkeeps : db.KeepsFinanced) :
    result.2.ReviewsLive ∧ result.2.KeepsFinanced := by
  obtain ⟨application, db'⟩ := result
  obtain ⟨session, plan, variant, applications, contracts, assets, trail, -, hoffer, rfl, happ,
    hcontract, -, rfl⟩ := submitApplication_eq_ok h
  obtain ⟨-, hvariant, -, hactive, -⟩ := findOffer_eq_ok hoffer
  constructor
  · intro c hc
    rw [(Table.create_eq_some hcontract).2, List.mem_append, List.mem_singleton] at hc
    rcases hc with hc | rfl
    · obtain ⟨a, ha, hawaits⟩ := hlive c hc
      exact ⟨a, Table.find?_of_create happ ha, hawaits⟩
    · exact ⟨newApplication sessionId params m,
        (Table.find?_create happ m.applicationId).trans (if_pos rfl), fun _ => rfl⟩
  · intro c hc hstatus variantId hid
    rw [(Table.create_eq_some hcontract).2, List.mem_append, List.mem_singleton] at hc
    rcases hc with hc | rfl
    · exact hkeeps c hc hstatus variantId hid
    · cases hid
      rw [Database.hasActive, hvariant]
      exact hactive

end KycService
end approvals

section catalogue
variable {productId variantId : String} {db db' : Database} {e : CatalogueStep}

theorem ProductService.deleteProduct_eq_ok {caller : CatalogueCaller}
    (h : deleteProduct productId caller db = .ok db') :
    ∃ p, db.products.find? productId = some p ∧ db' = { db with
      products := db.products.update productId (Product.withStatus .archived)
        (Product.withStatus_productId .archived) } := by
  rw [deleteProduct] at h
  split at h
  · cases h
  · rename_i p hp
    obtain ⟨u, -, h⟩ := bind_eq_ok.mp h
    cases h
    exact ⟨p, hp, rfl⟩

/-- Only products, variants and the images of variants change. -/
theorem CatalogueStep.frame (h : e.result db = .ok db') :
    ∃ products productVariants productVariantImages,
      db' = { db with products, productVariants, productVariantImages } := by
  cases hsync : e.syncs? db with
  | some id =>
    obtain ⟨-, db₁, hchanges, rfl⟩ := result_eq_sync h hsync
    obtain ⟨variants, images, rfl⟩ := hchanges.frame
    obtain ⟨products, hdb⟩ := ProductService.syncStats_frame id
      { db with productVariants := variants, productVariantImages := images }
    exact ⟨products, variants, images, hdb⟩
  | none =>
    obtain ⟨⟨products, rfl⟩, -⟩ := sets_of_unsynced "" h hsync
    exact ⟨products, _, _, rfl⟩

namespace VariantService

theorem replaceImages_productVariants {imageIds : Option (List ℕ)}
    (h : replaceImages variantId imageIds db = .ok db') :
    db'.productVariants = db.productVariants := by
  cases imageIds with
  | none =>
    cases h
    rfl
  | some imageIds =>
    rw [replaceImages, attachImages] at h
    split at h
    · cases h
      rfl
    · cases h

theorem hasActive_writeVariant (data : UpdateVariantInput)
    (hactive : db.hasActive variantId = true) :
    (writeVariant variantId data db).hasActive variantId = data.isActive.getD true := by
  obtain ⟨v, hv, hv'⟩ := (Option.any_eq_true _ _).mp hactive
  have hfind := Table.find?_update db.productVariants variantId variantId (updatedVariant data)
    (updatedVariant_variantId data)
  rw [if_pos rfl, hv] at hfind
  rw [Database.hasActive, writeVariant, hfind, Option.map_some, Option.any_some, updatedVariant, hv']

theorem hasActive_syncStats : (ProductService.syncStats productId db).hasActive variantId =
    db.hasActive variantId := by
  rw [Database.hasActive, ProductService.syncStats_productVariants, Database.hasActive]

end VariantService

/-- No operation takes away a variant that a live contract finances. -/
theorem CatalogueStep.hasActive_of_financed (h : e.result db = .ok db')
    (hspares : (FinancingStep.catalogue e).SwitchesOffUnfinanced db)
    (hactive : db.hasActive variantId = true)
    (hfinanced : VariantService.financed variantId db = true) :
    db'.hasActive variantId = true := by
  by_cases htouched : e.touches? = some variantId
  · cases e with
    | addVariant data caller id => cases htouched
    | bulkCreateVariants id variants caller ids => cases htouched
    | updateProduct id data caller => cases htouched
    | deleteProduct id caller => cases htouched
    | updateVariant id data caller =>
      cases htouched
      have hkept : data.isActive.getD true = true := by
        cases hswitch : data.isActive with
        | none => rfl
        | some isActive =>
          cases isActive with
          | true => rfl
          | false =>
            rw [hspares hswitch (isOk_iff.mpr ⟨db', h⟩)] at hfinanced
            cases hfinanced
      obtain ⟨v, -, h⟩ := bind_eq_ok.mp h
      split at h
      · cases h
      · obtain ⟨db₁, hreplace, h⟩ := bind_eq_ok.mp h
        cases h
        rw [VariantService.hasActive_syncStats, Database.hasActive,
          VariantService.replaceImages_productVariants hreplace]
        exact (VariantService.hasActive_writeVariant data hactive).trans hkept
    | updateVariantStock id stockQuantity caller =>
      cases htouched
      obtain ⟨v, -, h⟩ := bind_eq_ok.mp h
      cases h
      rw [VariantService.hasActive_syncStats]
      exact VariantService.hasActive_writeVariant _ hactive
    | deactivateVariant id isActive caller =>
      cases htouched
      obtain ⟨v, -, h⟩ := bind_eq_ok.mp h
      split at h
      · cases h
      · rename_i hguard
        cases h
        rw [VariantService.hasActive_syncStats, VariantService.hasActive_writeVariant _ hactive]
        simpa [hfinanced] using hguard
    | removeVariant id caller =>
      cases htouched
      obtain ⟨v, -, h⟩ := bind_eq_ok.mp h
      rw [if_pos hfinanced] at h
      cases h
  · obtain ⟨v, hv, hv'⟩ := (Option.any_eq_true _ _).mp hactive
    have hid := Table.find?_key hv
    have hmem : v ∈ db'.productVariants.rows := by
      cases hsync : e.syncs? db with
      | some id =>
        obtain ⟨-, db₁, hchanges, rfl⟩ := result_eq_sync h hsync
        rw [ProductService.syncStats_productVariants]
        exact hchanges.kept v (Table.mem_of_find? hv) (hid ▸ htouched)
      | none =>
        obtain ⟨⟨products, rfl⟩, -⟩ := sets_of_unsynced "" h hsync
        exact Table.mem_of_find? hv
    have hfind := Table.find?_of_mem hmem
    rw [hid] at hfind
    rw [Database.hasActive, hfind]
    exact hv'

theorem FinancingStep.keeps (hlive : db.ReviewsLive) (hkeeps : db.KeepsFinanced)
    (e : FinancingStep) (hspares : e.SwitchesOffUnfinanced db) :
    (e.apply db).ReviewsLive ∧ (e.apply db).KeepsFinanced := by
  cases e with
  | submitApplication storage sessionId params file m =>
    exact committed_rule (P := fun db' => db'.ReviewsLive ∧ db'.KeepsFinanced) ⟨hlive, hkeeps⟩
      fun result hresult => KycService.submitApplication_keeps hresult hlive hkeeps
  | approveApplication applicationId reviewerId m =>
    exact committed_rule (P := fun db' => db'.ReviewsLive ∧ db'.KeepsFinanced) ⟨hlive, hkeeps⟩
      fun result hresult =>
        (KycService.activatesReviewed_approveApplication hresult).keeps hlive hkeeps
  | catalogue e =>
    refine committed_rule (P := fun db' => db'.ReviewsLive ∧ db'.KeepsFinanced) ⟨hlive, hkeeps⟩
      fun db' hresult => ?_
    obtain ⟨products, variants, images, hdb⟩ := e.frame hresult
    have hcontracts : db'.financingContracts = db.financingContracts := by rw [hdb]
    constructor
    · intro c hc
      rw [hdb]
      exact hlive c (hcontracts ▸ hc)
    · intro c hc hstatus variantId hid
      have hc : c ∈ db.financingContracts.rows := hcontracts ▸ hc
      refine e.hasActive_of_financed hresult hspares (hkeeps c hc hstatus variantId hid) ?_
      exact List.any_eq_true.mpr ⟨c, hc, decide_eq_true ⟨hid, hstatus⟩⟩

/-- A deleted product is archived with its contracts, and keeps its variants. -/
theorem FinancingStep.archives (caller : CatalogueCaller)
    (h : (ProductService.deleteProduct productId caller db).isOk = true) :
    ∃ p, db.products.find? productId = some p ∧
      ((catalogue (.deleteProduct productId caller)).apply db).products.find? productId =
        some (p.withStatus .archived) ∧
      ((catalogue (.deleteProduct productId caller)).apply db).productVariants =
        db.productVariants ∧
      ((catalogue (.deleteProduct productId caller)).apply db).financingContracts =
        db.financingContracts := by
  obtain ⟨db', hdelete⟩ := isOk_iff.mp h
  have happly : (catalogue (.deleteProduct productId caller)).apply db = db' := by
    rw [apply, CatalogueStep.apply, CatalogueStep.result, hdelete]
    rfl
  obtain ⟨p, hp, rfl⟩ := ProductService.deleteProduct_eq_ok hdelete
  rw [happly]
  refine ⟨p, hp, ?_, rfl, rfl⟩
  refine (Table.find?_update db.products productId productId _
    (Product.withStatus_productId .archived)).trans ?_
  rw [if_pos rfl, hp, Option.map_some]

/-- In runs in which an update switches off no financed variant, what contracts finance stays
active. Products are archived whatever contracts they have, which takes nothing away from
these. -/
theorem live_contracts_keep_variants (hlive : db.ReviewsLive) (hkeeps : db.KeepsFinanced)
    (steps : List FinancingStep)
    (h : Along FinancingStep.apply (fun db e => e.SwitchesOffUnfinanced db) db steps) :
    Throughout FinancingStep.apply Database.KeepsFinanced db steps ∧
    Along FinancingStep.apply (fun db e => ∀ productId caller,
      e = .catalogue (.deleteProduct productId caller) →
        (ProductService.deleteProduct productId caller db).isOk = true →
          ∃ p, db.products.find? productId = some p ∧
            (e.apply db).products.find? productId = some (p.withStatus .archived) ∧
            (e.apply db).productVariants = db.productVariants ∧
            (e.apply db).financingContracts = db.financingContracts) db steps := by
  constructor
  · refine (h.throughout (I := fun db => db.ReviewsLive ∧ db.KeepsFinanced)
      (fun db e hdb hspares => FinancingStep.keeps hdb.1 hdb.2 e hspares) ⟨hlive, hkeeps⟩).imp
      fun db hdb => hdb.2
  · refine along_of_forall (fun db e productId caller he hok => ?_) db steps
    subst he
    exact FinancingStep.archives caller hok

end catalogue

/-- A published oven, and a person who is registered for it. -/
def ovenShop : Database where
  users := ⟨[{ userId := "clerk", role := .company, companyId := some "shop" }], by decide⟩
  onboardingSessions :=
    ⟨[{ sessionId := "call", name := "Ada", email := "ada@mail", passwordHash := "hash"
        companyId := some "shop", expiresAt := 100 }], by decide⟩
  products := ⟨[{ productId := "oven", companyId := some "shop", status := .published }], by decide⟩
  productVariants :=
    ⟨[{ variantId := "steel", productId := "oven", price := 600, stockQuantity := 2 }], by decide⟩
  productInstallmentPlans :=
    ⟨[{ planId := "half", productId := "oven", durationMonths := 6, interestPercentage := 10 }],
      by decide⟩

def ovenMoment : KycMoment where
  now := 10
  applicationId := "form"
  contractId := "deed"
  assetId := "scan"
  userId := "ada"
  installmentId := fun n => toString n

def financedOven : List FinancingStep :=
  [.submitApplication ⟨true, fun _ => .error "", fun _ => "sha"⟩ "call"
      ⟨"oven", "steel", "half", "NIN", "12345678901"⟩
      ⟨"bank.pdf", "/tmp/bank.pdf", 1000, "application/pdf"⟩ ovenMoment,
    .catalogue (.deactivateVariant "steel" false shopkeeper),
    .approveApplication "form" "clerk" ovenMoment,
    .catalogue (.updateVariant "steel" { price := some 700, isActive := some true } shopkeeper),
    .catalogue (.removeVariant "steel" shopkeeper),
    .catalogue (.deleteProduct "oven" shopkeeper)]

theorem financedOven_keeps :
    Throughout FinancingStep.apply Database.KeepsFinanced ovenShop financedOven :=
  (live_contracts_keep_variants (show ovenShop.ReviewsLive by decide) (by decide) financedOven
    (by decide +kernel)).1

/-- An update takes the variant of the contract off. -/
def switchedOff : List FinancingStep :=
  financedOven ++ [.catalogue (.updateVariant "steel" { isActive := some false } shopkeeper)]

/-- The contract is ACTIVE all the time that its product is archived and its variant not active. -/
theorem financed_variant_switched_off :
    (run FinancingStep.apply ovenShop financedOven).financingContracts.rows.map
        FinancingContract.status = [.active] ∧
      (run FinancingStep.apply ovenShop financedOven).products.rows.map Product.status =
        [.archived] ∧
      ¬ Throughout FinancingStep.apply Database.KeepsFinanced ovenShop switchedOff := by
  decide +kernel

end InstalFlow
