import InstalFlow.FinancedVariants
import InstalFlow.ProductImport
import InstalFlow.Transition.Run

/-!
# Catalogues of the companies

Products, variants and installment plans are a company's. Whoever is of another company can
create products of his own, and is answered about the company's as about rows that do not
exist.
-/

namespace InstalFlow
open Relational Transition

structure UpdateInstallmentPlanInput where
  durationMonths : Option ℤ := none
  interestPercentage : Option ℚ := none
  active : Option Bool := none

namespace InstallmentPlanService

/-- A plan with its product, which it cannot be without -/
def loadPlan (planId : String) (db : Database) : Option (ProductInstallmentPlan × Product) := do
  let plan ← db.productInstallmentPlans.find? planId
  let product ← db.products.find? plan.productId
  return (plan, product)

def hasPending (planId : String) (db : Database) : Bool :=
  db.kycApplications.rows.any fun a => a.installmentPlanId = planId ∧ a.status = .pending

def updatedPlan (data : UpdateInstallmentPlanInput) (p : ProductInstallmentPlan) :
    ProductInstallmentPlan :=
  { p with
    durationMonths := data.durationMonths.getD p.durationMonths
    interestPercentage := data.interestPercentage.getD p.interestPercentage
    active := data.active.getD p.active }

theorem updatedPlan_planId (data : UpdateInstallmentPlanInput) (p : ProductInstallmentPlan) :
    (updatedPlan data p).planId = p.planId := rfl

def writePlan (planId : String) (data : UpdateInstallmentPlanInput) (db : Database) : Database :=
  { db with
    productInstallmentPlans := db.productInstallmentPlans.update planId (updatedPlan data)
      (updatedPlan_planId data) }

def updateInstallmentPlan (planId : String) (data : UpdateInstallmentPlanInput)
    (caller : CatalogueCaller) (db : Database) : Except AppError Database :=
  match loadPlan planId db with
  | none => .error (.notFound "Installment plan not found")
  | some (_, product) => do
    assertCompanyOwnership product.companyId caller "Installment plan not found"
    if hasPending planId db ∧ data.active.isSome then
      .error (.badRequest
        "Cannot modify plan active status while there are pending KYC applications")
    else .ok (writePlan planId data db)

def deactivateInstallmentPlan (planId : String) (active : Bool) (caller : CatalogueCaller)
    (db : Database) : Except AppError Database :=
  match loadPlan planId db with
  | none => .error (.notFound "Installment plan not found")
  | some (_, product) => do
    assertCompanyOwnership product.companyId caller "Installment plan not found"
    if hasPending planId db then
      .error (.badRequest ("Cannot deactivate plan with pending KYC applications. " ++
        "Wait for applications to be processed."))
    else .ok (writePlan planId { active := some active } db)

def createInstallmentPlan (productId planId : String) (data : InstallmentPlanInput)
    (caller : CatalogueCaller) (db : Database) : Except AppError Database :=
  match db.products.find? productId with
  | none => .error (.notFound "Product not found")
  | some product => do
    assertCompanyOwnership product.companyId caller "Product not found"
    createPlan (newPlan productId planId data) db

end InstallmentPlanService

/-- A request about a row that is there already -/
inductive ShopRequest
  | catalogue (e : CatalogueStep)
  | updateInstallmentPlan (planId : String) (data : UpdateInstallmentPlanInput)
      (caller : CatalogueCaller)
  | deactivateInstallmentPlan (planId : String) (active : Bool) (caller : CatalogueCaller)
  | createInstallmentPlan (productId planId : String) (data : InstallmentPlanInput)
      (caller : CatalogueCaller)

inductive ShopStep
  | request (r : ShopRequest)
  | createProduct (data : CreateProductInput) (caller : CatalogueCaller) (m : ProductMoment)
  | createProductsBulk (products : List BulkCreateProductInput) (caller : CatalogueCaller)
      (m : ℕ → ProductMoment)

namespace CatalogueStep

def caller : CatalogueStep → CatalogueCaller
  | addVariant _ caller _ | bulkCreateVariants _ _ caller _ | updateVariant _ _ caller
  | updateVariantStock _ _ caller | deactivateVariant _ _ caller | removeVariant _ caller
  | updateProduct _ _ caller | deleteProduct _ caller => caller

/-- What is answered when the row is not there -/
def missing : CatalogueStep → String
  | addVariant _ _ _ | bulkCreateVariants _ _ _ _ | updateProduct _ _ _ | deleteProduct _ _ =>
      "Product not found"
  | updateVariant _ _ _ | updateVariantStock _ _ _ | deactivateVariant _ _ _
  | removeVariant _ _ => "Variant not found"

/-- The product of the row -/
def product? (db : Database) : CatalogueStep → Option Product
  | addVariant data _ _ => db.products.find? data.productId
  | bulkCreateVariants productId _ _ _ | updateProduct productId _ _
  | deleteProduct productId _ => db.products.find? productId
  | updateVariant variantId _ _ | updateVariantStock variantId _ _
  | deactivateVariant variantId _ _ | removeVariant variantId _ =>
      (VariantService.loadVariant variantId db).map Prod.snd

end CatalogueStep

namespace ShopRequest

def result (db : Database) : ShopRequest → Except AppError Database
  | catalogue e => e.result db
  | updateInstallmentPlan planId data caller =>
      InstallmentPlanService.updateInstallmentPlan planId data caller db
  | deactivateInstallmentPlan planId active caller =>
      InstallmentPlanService.deactivateInstallmentPlan planId active caller db
  | createInstallmentPlan productId planId data caller =>
      InstallmentPlanService.createInstallmentPlan productId planId data caller db

def caller : ShopRequest → CatalogueCaller
  | catalogue e => e.caller
  | updateInstallmentPlan _ _ caller | deactivateInstallmentPlan _ _ caller
  | createInstallmentPlan _ _ _ caller => caller

def missing : ShopRequest → String
  | catalogue e => e.missing
  | updateInstallmentPlan _ _ _ | deactivateInstallmentPlan _ _ _ => "Installment plan not found"
  | createInstallmentPlan _ _ _ _ => "Product not found"

def product? (db : Database) : ShopRequest → Option Product
  | catalogue e => e.product? db
  | updateInstallmentPlan planId _ _ | deactivateInstallmentPlan planId _ _ =>
      (InstallmentPlanService.loadPlan planId db).map Prod.snd
  | createInstallmentPlan productId _ _ _ => db.products.find? productId

end ShopRequest

namespace ShopStep

def result (db : Database) : ShopStep → Except AppError Database
  | request r => r.result db
  | createProduct data caller m => ProductService.createProduct caller.companyId data m db
  | createProductsBulk products caller m =>
      ProductService.createProductsBulk caller.companyId products m db

def apply (db : Database) (e : ShopStep) : Database := committed db id (e.result db)

def caller : ShopStep → CatalogueCaller
  | request r => r.caller
  | createProduct _ caller _ | createProductsBulk _ caller _ => caller

end ShopStep

/-- Neither of the company nor the platform's operator -/
def CatalogueCaller.Outside (companyId : String) (c : CatalogueCaller) : Prop :=
  c.role ≠ some .superAdmin ∧ c.companyId ≠ some companyId

def Database.Owns (companyId productId : String) (db : Database) : Prop :=
  ∃ p ∈ db.products.rows, p.productId = productId ∧ p.companyId = some companyId

/-- The products of a company, with their variants and plans, are the same, in the same order. -/
structure SameShop (companyId : String) (db db' : Database) : Prop where
  products : db'.products.rows.filter (fun p => p.companyId = some companyId) =
    db.products.rows.filter fun p => p.companyId = some companyId
  variants : ∀ q, db.Owns companyId q → db'.productVariants.rows.filter (fun v => v.productId = q) =
    db.productVariants.rows.filter fun v => v.productId = q
  plans : ∀ q, db.Owns companyId q →
    db'.productInstallmentPlans.rows.filter (fun p => p.productId = q) =
      db.productInstallmentPlans.rows.filter fun p => p.productId = q

section ownership
variable {companyId : String} {caller : CatalogueCaller} {db db' db'' : Database} {p : Product}

theorem assertCompanyOwnership_outside (h : caller.Outside companyId) (message : String) :
    assertCompanyOwnership (some companyId) caller message = .error (.notFound message) := by
  rw [assertCompanyOwnership, if_neg h.1, if_pos (.inr fun he => h.2 he.symm)]

namespace ShopRequest

/-- A row that is not there, and one that the caller's company does not own, are answered
alike. -/
theorem result_of_refused {r : ShopRequest} (h : ∀ p ∈ r.product? db,
    assertCompanyOwnership p.companyId r.caller r.missing = .error (.notFound r.missing)) :
    r.result db = .error (.notFound r.missing) := by
  have hrefused {p : Product} {f : Unit → Except AppError Database}
      (hp : assertCompanyOwnership p.companyId r.caller r.missing =
        .error (.notFound r.missing)) :
      (assertCompanyOwnership p.companyId r.caller r.missing >>= f) =
        .error (.notFound r.missing) := by
    rw [hp]
    rfl
  have hvariant {variantId : String} {f : ProductVariant → Except AppError Database}
      (hp : ∀ p ∈ (VariantService.loadVariant variantId db).map Prod.snd,
        assertCompanyOwnership p.companyId r.caller "Variant not found" =
          .error (.notFound "Variant not found")) :
      (VariantService.ownVariant variantId r.caller db >>= f) =
        .error (.notFound "Variant not found") := by
    rw [VariantService.ownVariant]
    cases hload : VariantService.loadVariant variantId db with
    | none => rfl
    | some loaded =>
      simp only [hp loaded.2 (by rw [hload]; rfl)]
      rfl
  cases r with
  | catalogue e =>
    cases e with
    | addVariant data caller variantId =>
      simp only [result, CatalogueStep.result, VariantService.addVariant]
      cases hfind : db.products.find? data.productId with
      | none => rfl
      | some p => exact hrefused (h p hfind)
    | bulkCreateVariants productId variants caller variantId =>
      simp only [result, CatalogueStep.result, VariantService.bulkCreateVariants]
      cases hfind : db.products.find? productId with
      | none => rfl
      | some p => exact hrefused (h p hfind)
    | updateVariant variantId data caller => exact hvariant h
    | updateVariantStock variantId stockQuantity caller => exact hvariant h
    | deactivateVariant variantId isActive caller => exact hvariant h
    | removeVariant variantId caller => exact hvariant h
    | updateProduct productId data caller =>
      simp only [result, CatalogueStep.result, ProductService.updateProduct]
      cases hfind : db.products.find? productId with
      | none => rfl
      | some p => exact hrefused (h p hfind)
    | deleteProduct productId caller =>
      simp only [result, CatalogueStep.result, ProductService.deleteProduct]
      cases hfind : db.products.find? productId with
      | none => rfl
      | some p => exact hrefused (h p hfind)
  | updateInstallmentPlan planId data caller =>
    simp only [result, InstallmentPlanService.updateInstallmentPlan]
    cases hload : InstallmentPlanService.loadPlan planId db with
    | none => rfl
    | some loaded => exact hrefused (h loaded.2 (by rw [product?, hload]; rfl))
  | deactivateInstallmentPlan planId active caller =>
    simp only [result, InstallmentPlanService.deactivateInstallmentPlan]
    cases hload : InstallmentPlanService.loadPlan planId db with
    | none => rfl
    | some loaded => exact hrefused (h loaded.2 (by rw [product?, hload]; rfl))
  | createInstallmentPlan productId planId data caller =>
    simp only [result, InstallmentPlanService.createInstallmentPlan]
    cases hfind : db.products.find? productId with
    | none => rfl
    | some p => exact hrefused (h p hfind)

/-- What goes through is about a product that is there, of a company that is not the one the
caller is outside of. -/
theorem product_of_ok {r : ShopRequest} (h : r.result db = .ok db')
    (hout : r.caller.Outside companyId) : ∃ p ∈ r.product? db, p.companyId ≠ some companyId := by
  by_contra hnone
  have hrefused := result_of_refused (r := r) fun p (hp : p ∈ r.product? db) => by
    by_contra hown
    refine hnone ⟨p, hp, fun he => hown ?_⟩
    rw [he]
    exact assertCompanyOwnership_outside hout r.missing
  rw [hrefused] at h
  cases h

end ShopRequest

/-- The companyId of a product decides whose it is. -/
theorem not_owns {productId : String} (hp : db.products.find? productId = some p)
    (hother : p.companyId ≠ some companyId) : ¬ db.Owns companyId productId := by
  rintro ⟨q, hq, rfl, hof⟩
  obtain rfl := Table.key_injective hq (Table.mem_of_find? hp) (Table.find?_key hp).symm
  exact hother hof

namespace SameShop

theorem refl (companyId : String) (db : Database) : SameShop companyId db db :=
  ⟨rfl, fun _ _ => rfl, fun _ _ => rfl⟩

theorem owns_iff (h : SameShop companyId db db') (q : String) :
    db'.Owns companyId q ↔ db.Owns companyId q := by
  have hfilter (db : Database) : db.Owns companyId q ↔
      ∃ p ∈ db.products.rows.filter (fun p => p.companyId = some companyId), p.productId = q := by
    simp only [Database.Owns, List.mem_filter, decide_eq_true_eq]
    exact exists_congr fun p => by tauto
  rw [hfilter, hfilter, h.products]

theorem trans (h : SameShop companyId db db') (h' : SameShop companyId db' db'') :
    SameShop companyId db db'' where
  products := h'.products.trans h.products
  variants q hq := (h'.variants q ((h.owns_iff q).mpr hq)).trans (h.variants q hq)
  plans q hq := (h'.plans q ((h.owns_iff q).mpr hq)).trans (h.plans q hq)

/-- A product of another company is changed. -/
theorem updateProduct {productId : String} (hp : db.products.find? productId = some p)
    (hother : p.companyId ≠ some companyId) {f : Product → Product}
    (hf : ∀ p, (f p).productId = p.productId) (hcompany : ∀ p, (f p).companyId = p.companyId) :
    SameShop companyId db { db with products := db.products.update productId f hf } := by
  refine ⟨Table.filter_map_rows fun q hq hid => ?_, fun _ _ => rfl, fun _ _ => rfl⟩
  obtain rfl := Table.key_injective hq (Table.mem_of_find? hp)
    ((of_decide_eq_true hid).trans (Table.find?_key hp).symm)
  rw [hcompany]
  exact ⟨decide_eq_false hother, decide_eq_false hother⟩

theorem syncStats {productId : String} (hp : db.products.find? productId = some p)
    (hother : p.companyId ≠ some companyId) :
    SameShop companyId db (ProductService.syncStats productId db) := by
  rw [ProductService.syncStats]
  split
  · exact updateProduct hp hother _ fun _ => rfl
  · exact refl companyId db

theorem changesVariants {productId : String} {touched : Option String}
    (h : ChangesVariants productId touched db db') (hother : ¬ db.Owns companyId productId) :
    SameShop companyId db db' := by
  obtain ⟨variants, images, hdb⟩ := h.frame
  refine ⟨by rw [hdb], fun q hq => h.others q ?_, fun _ _ => by rw [hdb]⟩
  rintro rfl
  exact hother hq

/-- Variants of a product of another company are written, and its figures recomputed. -/
theorem sync {productId : String} {touched : Option String}
    (h : ChangesVariants productId touched db db')
    (hp : db.products.find? productId = some p) (hother : p.companyId ≠ some companyId) :
    SameShop companyId db (ProductService.syncStats productId db') :=
  (changesVariants h (not_owns hp hother)).trans
    (syncStats (h.products_eq ▸ hp) hother)

theorem insertProduct (h : ProductService.insertProduct p db = .ok db')
    (hother : p.companyId ≠ some companyId) :
    SameShop companyId db db' ∧ db'.products.find? p.productId = some p := by
  rw [ProductService.insertProduct] at h
  split at h
  · cases h
  · split at h
    · cases h
    · obtain ⟨products, hcreate, h⟩ := bind_eq_ok.mp h
      cases h
      have hcreate := createRow_eq_ok.mp hcreate
      exact ⟨⟨Table.filter_rows_create hcreate (decide_eq_false hother), fun _ _ => rfl,
        fun _ _ => rfl⟩, (Table.find?_create hcreate p.productId).trans (if_pos rfl)⟩

theorem createPlan {plan : ProductInstallmentPlan}
    (h : InstallmentPlanService.createPlan plan db = .ok db')
    (hother : ¬ db.Owns companyId plan.productId) : SameShop companyId db db' := by
  obtain ⟨plans, hcreate, h⟩ := bind_eq_ok.mp h
  cases h
  refine ⟨rfl, fun _ _ => rfl, fun q hq => ?_⟩
  refine Table.filter_rows_create (createRow_eq_ok.mp hcreate) (decide_eq_false ?_)
  rintro rfl
  exact hother hq

theorem createPlans {rows : List ProductInstallmentPlan}
    (h : InstallmentPlanService.createPlans rows db = .ok db')
    (hother : ∀ plan ∈ rows, ¬ db.Owns companyId plan.productId) :
    SameShop companyId db db' ∧ db'.products = db.products := by
  induction rows generalizing db with
  | nil =>
    cases h
    exact ⟨refl companyId _, rfl⟩
  | cons plan rows ih =>
    obtain ⟨db₁, hplan, hrest⟩ := bind_eq_ok.mp h
    have hfirst := createPlan hplan (hother plan List.mem_cons_self)
    obtain ⟨hrows, hproducts⟩ := ih hrest fun other hmem hown =>
      hother other (List.mem_cons_of_mem plan hmem) ((hfirst.owns_iff _).mp hown)
    obtain ⟨plans, -, hdb⟩ := bind_eq_ok.mp hplan
    cases hdb
    exact ⟨hfirst.trans hrows, hproducts⟩

theorem writePlan {plan : ProductInstallmentPlan} (data : UpdateInstallmentPlanInput)
    (hplan : db.productInstallmentPlans.find? plan.planId = some plan)
    (hother : ¬ db.Owns companyId plan.productId) :
    SameShop companyId db (InstallmentPlanService.writePlan plan.planId data db) := by
  refine ⟨rfl, fun _ _ => rfl, fun q hq => Table.filter_map_rows fun r hr hid => ?_⟩
  obtain rfl := Table.key_injective hr (Table.mem_of_find? hplan) (of_decide_eq_true hid)
  have hne : decide (r.productId = q) = false := decide_eq_false fun he => hother (he ▸ hq)
  exact ⟨hne, hne⟩

end SameShop

theorem VariantService.loadVariant_eq_some {variantId : String} {v : ProductVariant}
    (h : loadVariant variantId db = some (v, p)) :
    db.productVariants.find? variantId = some v ∧ db.products.find? v.productId = some p := by
  simp only [loadVariant, Option.bind_eq_bind, Option.bind_eq_some_iff, Option.pure_def,
    Option.some.injEq, Prod.mk.injEq] at h
  obtain ⟨variant, hvariant, product, hproduct, rfl, rfl⟩ := h
  exact ⟨hvariant, hproduct⟩

theorem InstallmentPlanService.loadPlan_eq_some {planId : String} {plan : ProductInstallmentPlan}
    (h : loadPlan planId db = some (plan, p)) :
    db.productInstallmentPlans.find? planId = some plan ∧
      db.products.find? plan.productId = some p := by
  simp only [loadPlan, Option.bind_eq_bind, Option.bind_eq_some_iff, Option.pure_def,
    Option.some.injEq, Prod.mk.injEq] at h
  obtain ⟨found, hplan, product, hproduct, rfl, rfl⟩ := h
  exact ⟨hplan, hproduct⟩

theorem InstallmentPlanService.productId_newPlans {productId : String} {planId : ℕ → String}
    {n : ℕ} {data : List InstallmentPlanInput} {plan : ProductInstallmentPlan}
    (h : plan ∈ newPlans productId planId n data) : plan.productId = productId := by
  induction data generalizing n with
  | nil => cases h
  | cons first rest ih =>
    rcases List.mem_cons.mp h with rfl | h
    · rfl
    · exact ih h

namespace CatalogueStep
variable {e : CatalogueStep}

/-- A request is about a product that is there: it recomputes the figures of that product, or
it is one on the product itself. -/
theorem cases_of_product (h : p ∈ e.product? db) : db.products.find? p.productId = some p ∧
    (e.syncs? db = some p.productId ∨ (∃ data caller, e = .updateProduct p.productId data caller) ∨
      ∃ caller, e = .deleteProduct p.productId caller) := by
  have hself {id : String} (hfind : db.products.find? id = some p) :
      db.products.find? p.productId = some p := Table.find?_of_mem (Table.mem_of_find? hfind)
  have hvariant {variantId : String}
      (hload : p ∈ (VariantService.loadVariant variantId db).map Prod.snd) :
      db.products.find? p.productId = some p ∧
        (db.productVariants.find? variantId).map ProductVariant.productId = some p.productId := by
    obtain ⟨⟨v, q⟩, hfound, rfl⟩ := Option.map_eq_some_iff.mp (Option.mem_def.mp hload)
    obtain ⟨hv, hproduct⟩ := VariantService.loadVariant_eq_some hfound
    exact ⟨hself hproduct, by rw [hv, Table.find?_key hproduct]; rfl⟩
  cases e with
  | addVariant data caller variantId =>
    exact ⟨hself h, .inl (congrArg some (Table.find?_key h).symm)⟩
  | bulkCreateVariants productId variants caller variantId =>
    exact ⟨hself h, .inl (congrArg some (Table.find?_key h).symm)⟩
  | updateProduct productId data caller =>
    obtain rfl : p.productId = productId := Table.find?_key h
    exact ⟨h, .inr (.inl ⟨data, caller, rfl⟩)⟩
  | deleteProduct productId caller =>
    obtain rfl : p.productId = productId := Table.find?_key h
    exact ⟨h, .inr (.inr ⟨caller, rfl⟩)⟩
  | updateVariant variantId data caller => exact (hvariant h).imp_right .inl
  | updateVariantStock variantId stockQuantity caller => exact (hvariant h).imp_right .inl
  | deactivateVariant variantId isActive caller => exact (hvariant h).imp_right .inl
  | removeVariant variantId caller => exact (hvariant h).imp_right .inl

theorem sameShop (h : e.result db = .ok db') (hp : p ∈ e.product? db)
    (hother : p.companyId ≠ some companyId) : SameShop companyId db db' := by
  obtain ⟨hfind, hsync | ⟨data, caller, rfl⟩ | ⟨caller, rfl⟩⟩ := cases_of_product hp
  · obtain ⟨-, db₁, hchanges, rfl⟩ := result_eq_sync h hsync
    exact SameShop.sync hchanges hfind hother
  · simp only [result, ProductService.updateProduct, hfind] at h
    obtain ⟨u, -, h⟩ := bind_eq_ok.mp h
    split at h
    · cases h
    · cases h
      exact SameShop.updateProduct hfind hother _ fun _ => rfl
  · obtain ⟨-, -, rfl⟩ := ProductService.deleteProduct_eq_ok h
    exact SameShop.updateProduct hfind hother _ fun _ => rfl

end CatalogueStep

/-- A request that goes through for an outsider is about another shop, and changes no row of
the company's. -/
theorem ShopRequest.sameShop {r : ShopRequest} (h : r.result db = .ok db')
    (hout : r.caller.Outside companyId) : SameShop companyId db db' := by
  obtain ⟨p, hp, hother⟩ := product_of_ok h hout
  have hplan {planId : String} (hp : p ∈ (InstallmentPlanService.loadPlan planId db).map Prod.snd)
      (data : UpdateInstallmentPlanInput) :
      SameShop companyId db (InstallmentPlanService.writePlan planId data db) := by
    obtain ⟨⟨plan, q⟩, hload, rfl⟩ := Option.map_eq_some_iff.mp (Option.mem_def.mp hp)
    obtain ⟨hplan, hproduct⟩ := InstallmentPlanService.loadPlan_eq_some hload
    obtain rfl := Table.find?_key hplan
    exact SameShop.writePlan data hplan (not_owns hproduct hother)
  cases r with
  | catalogue e => exact CatalogueStep.sameShop h hp hother
  | updateInstallmentPlan planId data caller =>
    simp only [result, InstallmentPlanService.updateInstallmentPlan] at h
    split at h
    · cases h
    · obtain ⟨u, -, h⟩ := bind_eq_ok.mp h
      split at h
      · cases h
      · cases h
        exact hplan hp data
  | deactivateInstallmentPlan planId active caller =>
    simp only [result, InstallmentPlanService.deactivateInstallmentPlan] at h
    split at h
    · cases h
    · obtain ⟨u, -, h⟩ := bind_eq_ok.mp h
      split at h
      · cases h
      · cases h
        exact hplan hp _
  | createInstallmentPlan productId planId data caller =>
    simp only [product?, Option.mem_def] at hp
    obtain rfl : p.productId = productId := Table.find?_key hp
    simp only [result, InstallmentPlanService.createInstallmentPlan, hp] at h
    obtain ⟨u, -, h⟩ := bind_eq_ok.mp h
    exact SameShop.createPlan h (not_owns hp hother)

section newProducts
variable {owner : Option String} (howner : owner ≠ some companyId)
include howner

theorem ProductService.sameShop_createProduct {data : CreateProductInput} {m : ProductMoment}
    (h : createProduct owner data m db = .ok db') : SameShop companyId db db' ∧
      db'.products.find? m.productId = some (newProduct owner data m) := by
  obtain ⟨db₁, hinsert, hplans⟩ := bind_eq_ok.mp h
  obtain ⟨hfirst, hfind⟩ := SameShop.insertProduct hinsert howner
  have hother : ¬ db₁.Owns companyId m.productId := not_owns hfind howner
  obtain ⟨hrest, hproducts⟩ := SameShop.createPlans hplans fun plan hplan => by
    rw [InstallmentPlanService.productId_newPlans hplan]
    exact hother
  exact ⟨hfirst.trans hrest, hproducts ▸ hfind⟩

theorem ProductService.sameShop_importProduct {item : BulkCreateProductInput} {m : ProductMoment}
    (h : importProduct owner item m db = .ok db') : SameShop companyId db db' := by
  rw [importProduct_eq] at h
  obtain ⟨db₁, hcreate, h⟩ := bind_eq_ok.mp h
  obtain ⟨db₂, hvariants, h⟩ := bind_eq_ok.mp h
  obtain ⟨hfirst, hfind⟩ := sameShop_createProduct howner hcreate
  have hchanges : ChangesVariants m.productId none db₁ db₂ :=
    VariantService.changes_createVariants hvariants
  have hother : (newProduct owner item.toCreateProductInput m).companyId ≠ some companyId := howner
  cases h
  refine hfirst.trans ?_
  split
  · exact SameShop.changesVariants hchanges (not_owns hfind hother)
  · exact SameShop.sync hchanges hfind hother

theorem ProductService.sameShop_importProducts {m : ℕ → ProductMoment} {n : ℕ}
    {products : List BulkCreateProductInput} (h : importProducts owner m n products db = .ok db') :
    SameShop companyId db db' := by
  induction products generalizing n db with
  | nil =>
    cases h
    exact SameShop.refl companyId _
  | cons item rest ih =>
    obtain ⟨db₁, hitem, hrest⟩ := bind_eq_ok.mp h
    exact (sameShop_importProduct howner hitem).trans (ih hrest)

theorem ProductService.sameShop_createProductsBulk {m : ℕ → ProductMoment}
    {products : List BulkCreateProductInput}
    (h : createProductsBulk owner products m db = .ok db') : SameShop companyId db db' := by
  rw [createProductsBulk] at h
  split at h
  · cases h
  · split at h
    · cases h
    · split at h
      · cases h
      · dsimp only at h
        split at h
        · cases h
        · exact sameShop_importProducts howner h

end newProducts

theorem ShopStep.sameShop {e : ShopStep} (hout : e.caller.Outside companyId) :
    SameShop companyId db (e.apply db) := by
  refine committed_rule (SameShop.refl companyId db) fun x hx => ?_
  cases e with
  | request r => exact ShopRequest.sameShop hx hout
  | createProduct data caller m => exact (ProductService.sameShop_createProduct hout.2 hx).1
  | createProductsBulk products caller m =>
    exact ProductService.sameShop_createProductsBulk hout.2 hx

/-- However many requests outsiders make, and in whatever order, a company's shop stays as it
is, and they are answered about its products as about products that are not there. -/
theorem shop_closed_to_outsiders (companyId : String) (db : Database) {steps : List ShopStep}
    (hout : ∀ e ∈ steps, e.caller.Outside companyId) :
    SameShop companyId db (run ShopStep.apply db steps) ∧
    ∀ r : ShopRequest, r.caller.Outside companyId →
      (∀ p ∈ r.product? (run ShopStep.apply db steps), p.companyId = some companyId) →
      r.result (run ShopStep.apply db steps) = .error (.notFound r.missing) := by
  constructor
  · induction steps generalizing db with
    | nil => exact SameShop.refl companyId db
    | cons e steps ih =>
      have hfirst : SameShop companyId db (e.apply db) :=
        ShopStep.sameShop (hout e List.mem_cons_self)
      exact hfirst.trans (ih (e.apply db) fun e he => hout e (List.mem_cons_of_mem _ he))
  · intro r hr hshop
    refine ShopRequest.result_of_refused fun p hp => ?_
    rw [hshop p hp]
    exact assertCompanyOwnership_outside hr r.missing

end ownership

/-- Two shops in one street -/
def street : Database where
  companies := ⟨[{ companyId := "shop", name := "Shop" },
    { companyId := "rival", name := "Rival" }], by decide⟩
  categories := ⟨[⟨"kitchen", "Kitchen", "kitchen"⟩], by decide⟩
  products := ⟨[{ productId := "kettle", companyId := some "shop", price := 20 }], by decide⟩

def rival : CatalogueCaller := ⟨some "rival", some .company⟩

/-- The rival prices the other's kettle, brings in one of his own, and gives plans to both. -/
def rivalry : List ShopStep :=
  [.request (.catalogue (.updateProduct "kettle" { price := some 90 } rival)),
    .createProduct { name := "Kettle", categoryId := "kitchen", price := 15 } rival
      { productId := "copy", uuid := "0b2c4d6e-1111" },
    .request (.createInstallmentPlan "copy" "six" ⟨6, 5, none⟩ rival),
    .request (.createInstallmentPlan "kettle" "nine" ⟨9, 5, none⟩ rival)]

theorem shop_closed_to_rival :
    ((run ShopStep.apply street rivalry).products.rows.map fun p => (p.productId, p.price)) =
        [("kettle", 20), ("copy", 15)] ∧
      (run ShopStep.apply street rivalry).productInstallmentPlans.rows.map
        ProductInstallmentPlan.planId = ["six"] ∧
    SameShop "shop" street (run ShopStep.apply street rivalry) ∧
    ∀ r : ShopRequest, r.caller.Outside "shop" →
      (∀ p ∈ r.product? (run ShopStep.apply street rivalry), p.companyId = some "shop") →
      r.result (run ShopStep.apply street rivalry) = .error (.notFound r.missing) :=
  ⟨by decide +kernel, by decide +kernel, shop_closed_to_outsiders "shop" street
    (by simp [rivalry, ShopStep.caller, ShopRequest.caller, CatalogueStep.caller, rival,
      CatalogueCaller.Outside])⟩

end InstalFlow
