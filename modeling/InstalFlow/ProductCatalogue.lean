import InstalFlow.PaymentEffects
import InstalFlow.Relational.Rows

/-!
# Products and their variants

A product shows the prices and the stock of its active variants. Every operation on a
variant recomputes them, in one transaction with what it writes; where no variant is active
they stay what they were.
-/

namespace InstalFlow
open Relational

/-- Whom the access token names -/
structure CatalogueCaller where
  companyId : Option String := none
  role : Option Role := none

/-- A company that is not the caller's is answered like a row that does not exist. -/
def assertCompanyOwnership (resourceCompanyId : Option String) (caller : CatalogueCaller)
    (notFoundMessage : String) : Except AppError Unit :=
  if caller.role = some .superAdmin then .ok ()
  else if (caller.companyId.filter fun c => c ≠ "").isNone ∨ resourceCompanyId ≠ caller.companyId then
    .error (.notFound notFoundMessage)
  else .ok ()

structure UpdateProductInput where
  name : Option String := none
  commissionRate : Option ℚ := none
  status : Option ProductStatus := none
  price : Option ℚ := none
  stockQuantity : Option ℤ := none

structure BulkCreateVariantInput where
  sku : String
  price : ℚ
  stockQuantity : Option ℤ := none
  isActive : Option Bool := none
  imageIds : List ℕ := []

structure CreateVariantInput extends BulkCreateVariantInput where
  productId : String

structure UpdateVariantInput where
  sku : Option String := none
  price : Option ℚ := none
  stockQuantity : Option ℤ := none
  isActive : Option Bool := none
  imageIds : Option (List ℕ) := none

def FinancingStatus.activeOrPending : FinancingStatus → Bool
  | .active | .pendingActivation => true
  | _ => false

def Product.withStatus (status : ProductStatus) (p : Product) : Product := { p with status }

theorem Product.withStatus_productId (status : ProductStatus) (p : Product) :
    (p.withStatus status).productId = p.productId := rfl

namespace ProductService

def activeVariants (productId : String) (db : Database) : List ProductVariant :=
  db.productVariants.rows.filter fun v => v.productId = productId ∧ v.isActive

def syncedProduct (minPrice maxPrice : ℚ) (totalStock : ℤ) (p : Product) : Product :=
  { p with
    price := minPrice
    minPrice := some minPrice
    maxPrice := some maxPrice
    stockQuantity := totalStock
    status := if totalStock = 0 then .soldOut else .published }

theorem syncedProduct_productId (minPrice maxPrice : ℚ) (totalStock : ℤ) (p : Product) :
    (syncedProduct minPrice maxPrice totalStock p).productId = p.productId := rfl

/-- Without an active variant there is nothing to compute from, and nothing is written. -/
def syncStats (productId : String) (db : Database) : Database :=
  let variants := activeVariants productId db
  let prices := variants.map ProductVariant.price
  match prices.min?, prices.max? with
  | some minPrice, some maxPrice =>
    { db with
      products := db.products.update productId
        (syncedProduct minPrice maxPrice (variants.map ProductVariant.stockQuantity).sum)
        (syncedProduct_productId _ _ _) }
  | _, _ => db

def updatedProduct (data : UpdateProductInput) (hasActiveVariants : Bool) (p : Product) : Product :=
  { p with
    name := data.name.getD p.name
    commissionRate := data.commissionRate.getD p.commissionRate
    status := data.status.getD p.status
    price := if hasActiveVariants then p.price else data.price.getD p.price
    stockQuantity :=
      if hasActiveVariants then p.stockQuantity else data.stockQuantity.getD p.stockQuantity }

theorem updatedProduct_productId (data : UpdateProductInput) (hasActiveVariants : Bool)
    (p : Product) : (updatedProduct data hasActiveVariants p).productId = p.productId := rfl

def updateProduct (productId : String) (data : UpdateProductInput) (caller : CatalogueCaller)
    (db : Database) : Except AppError Database :=
  match db.products.find? productId with
  | none => .error (.notFound "Product not found")
  | some product => do
    assertCompanyOwnership product.companyId caller "Product not found"
    let hasActiveVariants := !(activeVariants productId db).isEmpty
    if hasActiveVariants ∧ (data.price.isSome ∨ data.stockQuantity.isSome) then
      .error (.badRequest ("Price and stock are automatically derived from active variants. " ++
        "Update individual variant prices and stock instead."))
    else
      .ok { db with
        products := db.products.update productId (updatedProduct data hasActiveVariants)
          (updatedProduct_productId data hasActiveVariants) }

/-- The applications and contracts of the product are looked up, but not looked at. -/
def deleteProduct (productId : String) (caller : CatalogueCaller) (db : Database) :
    Except AppError Database :=
  match db.products.find? productId with
  | none => .error (.notFound "Product not found")
  | some product => do
    assertCompanyOwnership product.companyId caller "Product not found"
    .ok { db with
      products := db.products.update productId (Product.withStatus .archived)
        (Product.withStatus_productId .archived) }

/-- The rows that a listing pages through, with its filters by company and category -/
def getAllProducts (status : Option ProductStatus) (companyId : Option String)
    (inCategory : Product → Bool) (db : Database) : List Product :=
  db.products.rows.filter fun p => p.status = status.getD .published ∧
    companyId.all (fun c => p.companyId = some c) ∧ inCategory p

/-- The rows that a search picks from, by a match of its words -/
def searchProducts (found : Product → Bool) (db : Database) : List Product :=
  db.products.rows.filter fun p => p.status = .published ∧ found p

end ProductService

/-- The figures of a product are those of variants: their stock together, the lowest of their
prices and the highest. -/
structure ShowsVariants (variants : List ProductVariant) (p : Product) : Prop where
  stock : p.stockQuantity = (variants.map ProductVariant.stockQuantity).sum
  price : p.price ∈ variants.map ProductVariant.price ∧ ∀ v ∈ variants, p.price ≤ v.price
  minPrice : p.minPrice = some p.price
  maxPrice : ∃ price, p.maxPrice = some price ∧ price ∈ variants.map ProductVariant.price ∧
    ∀ v ∈ variants, v.price ≤ price

namespace ProductService
variable {productId : String} {db : Database}

theorem syncStats_eq_self (h : activeVariants productId db = []) : syncStats productId db = db := by
  simp [syncStats, h]

theorem showsVariants_syncedProduct {variants : List ProductVariant} {minPrice maxPrice : ℚ}
    (hmin : (variants.map ProductVariant.price).min? = some minPrice)
    (hmax : (variants.map ProductVariant.price).max? = some maxPrice) (p : Product) :
    ShowsVariants variants (syncedProduct minPrice maxPrice
      (variants.map ProductVariant.stockQuantity).sum p) := by
  obtain ⟨hleast, hbelow⟩ := List.min?_eq_some_iff.mp hmin
  obtain ⟨hgreatest, habove⟩ := List.max?_eq_some_iff.mp hmax
  exact ⟨rfl, ⟨hleast, fun v hv => hbelow _ (List.mem_map_of_mem hv)⟩, rfl,
    maxPrice, rfl, hgreatest, fun v hv => habove _ (List.mem_map_of_mem hv)⟩

/-- With an active variant the product gets its figures, and is PUBLISHED or SOLD_OUT. -/
theorem syncStats_eq_update (h : activeVariants productId db ≠ []) :
    ∃ f hf, syncStats productId db = { db with products := db.products.update productId f hf } ∧
      ∀ p, ShowsVariants (activeVariants productId db) (f p) ∧
        ((f p).status = .soldOut ∨ (f p).status = .published) := by
  have hprices : (activeVariants productId db).map ProductVariant.price ≠ [] := by
    rwa [ne_eq, List.map_eq_nil_iff]
  obtain ⟨minPrice, hmin⟩ := Option.isSome_iff_exists.mp
    (Option.isSome_iff_ne_none.mpr fun hnone => hprices (List.min?_eq_none_iff.mp hnone))
  obtain ⟨maxPrice, hmax⟩ := Option.isSome_iff_exists.mp
    (Option.isSome_iff_ne_none.mpr fun hnone => hprices (List.max?_eq_none_iff.mp hnone))
  refine ⟨_, syncedProduct_productId minPrice maxPrice _, ?_, fun p =>
    ⟨showsVariants_syncedProduct hmin hmax p, ?_⟩⟩
  · simp only [syncStats, hmin, hmax]
  · rw [syncedProduct]
    dsimp only
    split
    · exact .inl rfl
    · exact .inr rfl

theorem syncStats_frame (productId : String) (db : Database) :
    ∃ products, syncStats productId db = { db with products } := by
  by_cases h : activeVariants productId db = []
  · exact ⟨_, syncStats_eq_self h⟩
  · obtain ⟨f, hf, hdb, -⟩ := syncStats_eq_update h
    exact ⟨_, hdb⟩

theorem syncStats_productVariants :
    (syncStats productId db).productVariants = db.productVariants := by
  obtain ⟨products, hdb⟩ := syncStats_frame productId db
  rw [hdb]

theorem find?_syncStats_other {q : String} (hq : q ≠ productId) :
    (syncStats productId db).products.find? q = db.products.find? q := by
  by_cases h : activeVariants productId db = []
  · rw [syncStats_eq_self h]
  · obtain ⟨f, hf, hdb, -⟩ := syncStats_eq_update h
    rw [hdb]
    exact (Table.find?_update db.products productId q f hf).trans (if_neg hq)

theorem activeVariants_congr {db' : Database} (h : db'.productVariants = db.productVariants) :
    activeVariants productId db' = activeVariants productId db := by
  rw [activeVariants, h, activeVariants]

end ProductService

namespace VariantService

def skuTaken (sku : String) (db : Database) : Bool :=
  db.productVariants.rows.any fun v => v.sku = sku

def newVariant (productId variantId : String) (data : BulkCreateVariantInput) : ProductVariant where
  variantId := variantId
  productId := productId
  sku := data.sku
  price := data.price
  stockQuantity := data.stockQuantity.getD 0
  isActive := data.isActive.getD true

def createVariant (row : ProductVariant) (db : Database) : Except AppError Database :=
  if skuTaken row.sku db then .error (.uniqueViolation ["sku"])
  else
    match createRow db.productVariants row ["variantId"] with
    | .error err => .error err
    | .ok productVariants => .ok { db with productVariants }

/-- `createMany` with `skipDuplicates`, under the foreign key of the images -/
def attachImages (variantId : String) (imageIds : List ℕ) (db : Database) :
    Except AppError Database :=
  if imageIds.all fun id => (db.productImages.find? id).isSome then
    .ok { db with
      productVariantImages := imageIds.zipIdx.foldl
        (fun images (imageId, idx) => (images.create
          { variantId, imageId, isPrimary := idx = 0, sortOrder := idx }).getD images)
        db.productVariantImages }
  else .error (.error "Foreign key constraint violated")

def addVariant (data : CreateVariantInput) (caller : CatalogueCaller) (variantId : String)
    (db : Database) : Except AppError Database :=
  match db.products.find? data.productId with
  | none => .error (.notFound "Product not found")
  | some product => do
    assertCompanyOwnership product.companyId caller "Product not found"
    if skuTaken data.sku db then .error (.badRequest "SKU already exists")
    else
      let db ← createVariant (newVariant data.productId variantId data.toBulkCreateVariantInput) db
      let db ← attachImages variantId data.imageIds db
      .ok (ProductService.syncStats data.productId db)

def createVariants (productId : String) (variantId : ℕ → String) :
    ℕ → List BulkCreateVariantInput → Database → Except AppError Database
  | _, [], db => .ok db
  | n, data :: rest, db => do
    let db ← createVariant (newVariant productId (variantId n) data) db
    createVariants productId variantId (n + 1) rest db

def attachAllImages (variantId : ℕ → String) :
    ℕ → List BulkCreateVariantInput → Database → Except AppError Database
  | _, [], db => .ok db
  | n, data :: rest, db => do
    let db ← attachImages (variantId n) data.imageIds db
    attachAllImages variantId (n + 1) rest db

/-- The row number `n` gets the id `variantId n`. -/
def bulkCreateVariants (productId : String) (variants : List BulkCreateVariantInput)
    (caller : CatalogueCaller) (variantId : ℕ → String) (db : Database) :
    Except AppError Database :=
  match db.products.find? productId with
  | none => .error (.notFound "Product not found")
  | some product => do
    assertCompanyOwnership product.companyId caller "Product not found"
    let existing := db.productVariants.rows.filter fun v => v.sku ∈ variants.map (·.sku)
    if !existing.isEmpty then
      .error (.badRequest
        ("SKU(s) already exist: " ++ ", ".intercalate (existing.map ProductVariant.sku)))
    else
      let db ← createVariants productId variantId 0 variants db
      let db ← attachAllImages variantId 0 variants db
      .ok (ProductService.syncStats productId db)

/-- A variant with its product, which it cannot be without. -/
def loadVariant (variantId : String) (db : Database) : Option (ProductVariant × Product) := do
  let variant ← db.productVariants.find? variantId
  let product ← db.products.find? variant.productId
  return (variant, product)

/-- The variant of a caller's company -/
def ownVariant (variantId : String) (caller : CatalogueCaller) (db : Database) :
    Except AppError ProductVariant :=
  match loadVariant variantId db with
  | none => .error (.notFound "Variant not found")
  | some (variant, product) => do
    assertCompanyOwnership product.companyId caller "Variant not found"
    return variant

def updatedVariant (data : UpdateVariantInput) (v : ProductVariant) : ProductVariant :=
  { v with
    sku := data.sku.getD v.sku
    price := data.price.getD v.price
    stockQuantity := data.stockQuantity.getD v.stockQuantity
    isActive := data.isActive.getD v.isActive }

theorem updatedVariant_variantId (data : UpdateVariantInput) (v : ProductVariant) :
    (updatedVariant data v).variantId = v.variantId := rfl

def writeVariant (variantId : String) (data : UpdateVariantInput) (db : Database) : Database :=
  { db with
    productVariants := db.productVariants.update variantId (updatedVariant data)
      (updatedVariant_variantId data) }

def clearImages (variantId : String) (db : Database) : Database :=
  { db with
    productVariantImages := db.productVariantImages.deleteMany fun i => i.variantId = variantId }

def replaceImages (variantId : String) (imageIds : Option (List ℕ)) (db : Database) :
    Except AppError Database :=
  match imageIds with
  | none => .ok db
  | some imageIds => attachImages variantId imageIds (clearImages variantId db)

/-- The schema lets no empty `sku` through. -/
def updateVariant (variantId : String) (data : UpdateVariantInput) (caller : CatalogueCaller)
    (db : Database) : Except AppError Database := do
  let variant ← ownVariant variantId caller db
  if (data.sku.filter fun sku => sku ≠ variant.sku).any fun sku => skuTaken sku db then
    .error (.badRequest "SKU already exists")
  else
    let db ← replaceImages variantId data.imageIds (writeVariant variantId data db)
    .ok (ProductService.syncStats variant.productId db)

def updateVariantStock (variantId : String) (stockQuantity : ℤ) (caller : CatalogueCaller)
    (db : Database) : Except AppError Database := do
  let variant ← ownVariant variantId caller db
  .ok (ProductService.syncStats variant.productId
    (writeVariant variantId { stockQuantity := some stockQuantity } db))

/-- Whether a contract in ACTIVE or PENDING_ACTIVATION finances the variant -/
def financed (variantId : String) (db : Database) : Bool :=
  db.financingContracts.rows.any fun c =>
    c.variantId = some variantId ∧ c.status.activeOrPending

def deactivateVariant (variantId : String) (isActive : Bool) (caller : CatalogueCaller)
    (db : Database) : Except AppError Database := do
  let variant ← ownVariant variantId caller db
  if !isActive ∧ financed variantId db then
    .error (.badRequest ("Cannot deactivate a variant with active financing contracts. " ++
      "Restructure the contracts first."))
  else
    .ok (ProductService.syncStats variant.productId
      (writeVariant variantId { isActive := some isActive } db))

/-- Contracts of any status keep their variant; its images go with it. -/
def deleteVariant (variantId : String) (db : Database) : Except AppError Database :=
  if db.financingContracts.rows.any fun c => c.variantId = some variantId then
    .error (.error "Foreign key constraint violated")
  else
    .ok (clearImages variantId
      { db with productVariants := db.productVariants.deleteMany fun v => v.variantId = variantId })

def removeVariant (variantId : String) (caller : CatalogueCaller) (db : Database) :
    Except AppError Database := do
  let variant ← ownVariant variantId caller db
  if financed variantId db then
    .error (.badRequest "Cannot delete a variant with active financing contracts.")
  else
    let db ← deleteVariant variantId db
    .ok (ProductService.syncStats variant.productId db)

end VariantService

inductive CatalogueStep
  | addVariant (data : CreateVariantInput) (caller : CatalogueCaller) (variantId : String)
  | bulkCreateVariants (productId : String) (variants : List BulkCreateVariantInput)
      (caller : CatalogueCaller) (variantId : ℕ → String)
  | updateVariant (variantId : String) (data : UpdateVariantInput) (caller : CatalogueCaller)
  | updateVariantStock (variantId : String) (stockQuantity : ℤ) (caller : CatalogueCaller)
  | deactivateVariant (variantId : String) (isActive : Bool) (caller : CatalogueCaller)
  | removeVariant (variantId : String) (caller : CatalogueCaller)
  | updateProduct (productId : String) (data : UpdateProductInput) (caller : CatalogueCaller)
  | deleteProduct (productId : String) (caller : CatalogueCaller)

namespace CatalogueStep

def result (db : Database) : CatalogueStep → Except AppError Database
  | addVariant data caller variantId => VariantService.addVariant data caller variantId db
  | bulkCreateVariants productId variants caller variantId =>
      VariantService.bulkCreateVariants productId variants caller variantId db
  | updateVariant variantId data caller => VariantService.updateVariant variantId data caller db
  | updateVariantStock variantId stockQuantity caller =>
      VariantService.updateVariantStock variantId stockQuantity caller db
  | deactivateVariant variantId isActive caller =>
      VariantService.deactivateVariant variantId isActive caller db
  | removeVariant variantId caller => VariantService.removeVariant variantId caller db
  | updateProduct productId data caller => ProductService.updateProduct productId data caller db
  | deleteProduct productId caller => ProductService.deleteProduct productId caller db

def apply (db : Database) (e : CatalogueStep) : Database := committed db id (e.result db)

/-- The product whose figures an operation on a variant recomputes -/
def syncs? (db : Database) : CatalogueStep → Option String
  | addVariant data _ _ => some data.productId
  | bulkCreateVariants productId _ _ _ => some productId
  | updateVariant variantId _ _ | updateVariantStock variantId _ _
  | deactivateVariant variantId _ _ | removeVariant variantId _ =>
      (db.productVariants.find? variantId).map ProductVariant.productId
  | updateProduct _ _ _ | deleteProduct _ _ => none

/-- Whether an operation sets the stock of a product by hand -/
def setsStock (productId : String) (db : Database) : CatalogueStep → Bool
  | e@(.updateProduct id data _) =>
    id = productId ∧ data.stockQuantity.isSome ∧ (e.result db).isOk
  | _ => false

/-- The status that an operation sets for a product -/
def chooses? (productId : String) (db : Database) : CatalogueStep → Option ProductStatus
  | e@(.updateProduct id data _) => if id = productId ∧ (e.result db).isOk then data.status else none
  | e@(.deleteProduct id _) => if id = productId ∧ (e.result db).isOk then some .archived else none
  | _ => none

/-- The variant that an operation changes or deletes -/
def touches? : CatalogueStep → Option String
  | updateVariant variantId _ _ | updateVariantStock variantId _ _
  | deactivateVariant variantId _ _ | removeVariant variantId _ => some variantId
  | _ => none

end CatalogueStep

/-- Variants of one product are added, and one of them is changed or deleted. -/
structure ChangesVariants (productId : String) (touched : Option String) (db db' : Database) :
    Prop where
  frame : ∃ productVariants productVariantImages, db' = { db with productVariants, productVariantImages }
  others : ∀ q, q ≠ productId → db'.productVariants.rows.filter (fun v => v.productId = q) =
    db.productVariants.rows.filter fun v => v.productId = q
  kept : ∀ v ∈ db.productVariants.rows, touched ≠ some v.variantId → v ∈ db'.productVariants.rows

namespace ChangesVariants
variable {productId : String} {touched : Option String} {db db' db'' : Database}

theorem refl (productId : String) (touched : Option String) (db : Database) :
    ChangesVariants productId touched db db :=
  ⟨⟨_, _, rfl⟩, fun _ _ => rfl, fun _ hv _ => hv⟩

theorem trans (h : ChangesVariants productId touched db db')
    (h' : ChangesVariants productId touched db' db'') :
    ChangesVariants productId touched db db'' := by
  obtain ⟨variants, images, rfl⟩ := h.frame
  obtain ⟨variants', images', rfl⟩ := h'.frame
  exact ⟨⟨_, _, rfl⟩, fun q hq => (h'.others q hq).trans (h.others q hq),
    fun v hv hne => h'.kept v (h.kept v hv hne) hne⟩

theorem activeVariants_other (h : ChangesVariants productId touched db db') {q : String}
    (hq : q ≠ productId) : ProductService.activeVariants q db' = ProductService.activeVariants q db := by
  have hsplit (db : Database) : ProductService.activeVariants q db =
      (db.productVariants.rows.filter fun v => v.productId = q).filter fun v => v.isActive := by
    rw [ProductService.activeVariants, List.filter_filter]
    refine List.filter_congr fun v _ => ?_
    rw [Bool.decide_and, Bool.decide_eq_true, Bool.and_comm]
  rw [hsplit, hsplit, h.others q hq]

theorem products_eq (h : ChangesVariants productId touched db db') :
    db'.products = db.products := by
  obtain ⟨variants, images, rfl⟩ := h.frame
  rfl

end ChangesVariants

namespace VariantService
variable {productId variantId : String} {touched : Option String} {db db' : Database}

theorem changes_createVariant {row : ProductVariant} (h : createVariant row db = .ok db') :
    ChangesVariants row.productId touched db db' := by
  rw [createVariant] at h
  split at h
  · cases h
  · split at h
    · cases h
    · rename_i variants hcreate
      cases h
      have hcreate := createRow_eq_ok.mp hcreate
      refine ⟨⟨_, _, rfl⟩, fun q hq => ?_, fun v hv _ => ?_⟩
      · exact Table.filter_rows_create hcreate (decide_eq_false fun he => hq he.symm)
      · rw [(Table.create_eq_some hcreate).2]
        exact List.mem_append_left _ hv

theorem changes_attachImages {imageIds : List ℕ} (h : attachImages variantId imageIds db = .ok db') :
    ChangesVariants productId touched db db' := by
  rw [attachImages] at h
  split at h
  · cases h
    exact ⟨⟨_, _, rfl⟩, fun _ _ => rfl, fun _ hv _ => hv⟩
  · cases h

theorem changes_createVariants {ids : ℕ → String} {n : ℕ} {variants : List BulkCreateVariantInput}
    (h : createVariants productId ids n variants db = .ok db') :
    ChangesVariants productId touched db db' := by
  induction variants generalizing n db with
  | nil =>
    cases h
    exact .refl _ _ _
  | cons data rest ih =>
    obtain ⟨db₁, hcreate, h⟩ := bind_eq_ok.mp h
    exact (changes_createVariant hcreate).trans (ih h)

theorem changes_attachAllImages {ids : ℕ → String} {n : ℕ}
    {variants : List BulkCreateVariantInput} (h : attachAllImages ids n variants db = .ok db') :
    ChangesVariants productId touched db db' := by
  induction variants generalizing n db with
  | nil =>
    cases h
    exact .refl _ _ _
  | cons data rest ih =>
    obtain ⟨db₁, hattach, h⟩ := bind_eq_ok.mp h
    exact (changes_attachImages hattach).trans (ih h)

theorem changes_clearImages : ChangesVariants productId touched db (clearImages variantId db) :=
  ⟨⟨_, _, rfl⟩, fun _ _ => rfl, fun _ hv _ => hv⟩

theorem changes_replaceImages {imageIds : Option (List ℕ)}
    (h : replaceImages variantId imageIds db = .ok db') :
    ChangesVariants productId touched db db' := by
  cases imageIds with
  | none =>
    cases h
    exact .refl _ _ _
  | some imageIds => exact changes_clearImages.trans (changes_attachImages h)

theorem ownVariant_eq_ok {caller : CatalogueCaller} {v : ProductVariant}
    (h : ownVariant variantId caller db = .ok v) : db.productVariants.find? variantId = some v ∧
      (db.products.find? v.productId).isSome = true := by
  rw [ownVariant] at h
  cases hload : loadVariant variantId db with
  | none =>
    rw [hload] at h
    cases h
  | some loaded =>
    rw [hload] at h
    obtain ⟨u, -, h⟩ := bind_eq_ok.mp h
    cases h
    simp only [loadVariant, Option.bind_eq_bind, Option.bind_eq_some_iff, Option.pure_def,
      Option.some.injEq] at hload
    obtain ⟨variant, hvariant, product, hproduct, rfl⟩ := hload
    exact ⟨hvariant, Option.isSome_iff_exists.mpr ⟨product, hproduct⟩⟩

section found
variable {v : ProductVariant} (hv : db.productVariants.find? variantId = some v)
include hv

/-- A row of another product is not the one found. -/
theorem not_other_of_found {q : String} (hq : q ≠ v.productId) {r : ProductVariant}
    (hr : r ∈ db.productVariants.rows) (hid : decide (r.variantId = variantId) = true) :
    decide (r.productId = q) = false := by
  have hsame : r = v := by
    have hfind := Table.find?_of_mem (t := db.productVariants) hr
    rw [of_decide_eq_true hid, hv] at hfind
    exact (Option.some.inj hfind).symm
  rw [hsame]
  exact decide_eq_false fun he => hq he.symm

theorem changes_writeVariant (data : UpdateVariantInput) :
    ChangesVariants v.productId (some variantId) db (writeVariant variantId data db) := by
  refine ⟨⟨_, _, rfl⟩, fun q hq => ?_, fun r hr hne => ?_⟩
  · refine Table.filter_map_rows fun r hr hid => ?_
    have hother := not_other_of_found hv hq hr hid
    exact ⟨hother, hother⟩
  · refine List.mem_map.mpr ⟨r, hr, if_neg fun hid => hne ?_⟩
    rw [of_decide_eq_true hid]

theorem changes_deleteVariant (h : deleteVariant variantId db = .ok db') :
    ChangesVariants v.productId (some variantId) db db' := by
  rw [deleteVariant] at h
  split at h
  · cases h
  · cases h
    have hdeletes : ChangesVariants v.productId (some variantId) db { db with
        productVariants := db.productVariants.deleteMany fun v => v.variantId = variantId } := by
      refine ⟨⟨_, _, rfl⟩, fun q hq => ?_, fun r hr hne => ?_⟩
      · exact Table.filter_rows_deleteMany fun r hr hid => not_other_of_found hv hq hr hid
      · exact Table.mem_deleteMany.mpr ⟨hr, decide_eq_false fun he => hne (he ▸ rfl)⟩
    exact hdeletes.trans changes_clearImages

end found
end VariantService

namespace CatalogueStep
variable {productId : String} {db db' : Database} {e : CatalogueStep}

/-- An operation on a variant that goes through writes variants of one product, and
recomputes the figures of that product. -/
theorem result_eq_sync (h : e.result db = .ok db') (hsync : e.syncs? db = some productId) :
    (db.products.find? productId).isSome = true ∧
      ∃ db₁, ChangesVariants productId e.touches? db db₁ ∧
        db' = ProductService.syncStats productId db₁ := by
  cases e with
  | addVariant data caller variantId =>
    cases hsync
    rw [result, VariantService.addVariant] at h
    split at h
    · cases h
    · rename_i product hproduct
      obtain ⟨u, -, h⟩ := bind_eq_ok.mp h
      split at h
      · cases h
      · obtain ⟨db₁, hcreate, h⟩ := bind_eq_ok.mp h
        obtain ⟨db₂, hattach, h⟩ := bind_eq_ok.mp h
        cases h
        exact ⟨by rw [hproduct]; rfl, db₂, (VariantService.changes_createVariant hcreate).trans
          (VariantService.changes_attachImages hattach), rfl⟩
  | bulkCreateVariants productId variants caller variantId =>
    cases hsync
    rw [result, VariantService.bulkCreateVariants] at h
    split at h
    · cases h
    · rename_i product hproduct
      obtain ⟨u, -, h⟩ := bind_eq_ok.mp h
      dsimp only at h
      split at h
      · cases h
      · obtain ⟨db₁, hcreate, h⟩ := bind_eq_ok.mp h
        obtain ⟨db₂, hattach, h⟩ := bind_eq_ok.mp h
        cases h
        exact ⟨by rw [hproduct]; rfl, db₂, (VariantService.changes_createVariants hcreate).trans
          (VariantService.changes_attachAllImages hattach), rfl⟩
  | updateVariant variantId data caller =>
    obtain ⟨v, hown, h⟩ := bind_eq_ok.mp h
    obtain ⟨hv, hproduct⟩ := VariantService.ownVariant_eq_ok hown
    rw [syncs?, hv] at hsync
    cases hsync
    split at h
    · cases h
    · obtain ⟨db₁, hreplace, h⟩ := bind_eq_ok.mp h
      cases h
      exact ⟨hproduct, db₁, (VariantService.changes_writeVariant hv data).trans
        (VariantService.changes_replaceImages hreplace), rfl⟩
  | updateVariantStock variantId stockQuantity caller =>
    obtain ⟨v, hown, h⟩ := bind_eq_ok.mp h
    obtain ⟨hv, hproduct⟩ := VariantService.ownVariant_eq_ok hown
    rw [syncs?, hv] at hsync
    cases hsync
    cases h
    exact ⟨hproduct, _, VariantService.changes_writeVariant hv _, rfl⟩
  | deactivateVariant variantId isActive caller =>
    obtain ⟨v, hown, h⟩ := bind_eq_ok.mp h
    obtain ⟨hv, hproduct⟩ := VariantService.ownVariant_eq_ok hown
    rw [syncs?, hv] at hsync
    cases hsync
    split at h
    · cases h
    · cases h
      exact ⟨hproduct, _, VariantService.changes_writeVariant hv _, rfl⟩
  | removeVariant variantId caller =>
    obtain ⟨v, hown, h⟩ := bind_eq_ok.mp h
    obtain ⟨hv, hproduct⟩ := VariantService.ownVariant_eq_ok hown
    rw [syncs?, hv] at hsync
    cases hsync
    split at h
    · cases h
    · obtain ⟨db₁, hdelete, h⟩ := bind_eq_ok.mp h
      cases h
      exact ⟨hproduct, db₁, VariantService.changes_deleteVariant hv hdelete, rfl⟩
  | updateProduct productId data caller => cases hsync
  | deleteProduct productId caller => cases hsync

open ProductService

/-- What an operation that recomputes no figures makes of a product -/
structure Sets (productId : String) (db : Database) (e : CatalogueStep) (g : Product → Product) :
    Prop where
  product : (e.apply db).products.find? productId = (db.products.find? productId).map g
  status : ∀ p, (g p).status = (e.chooses? productId db).getD p.status
  figures : activeVariants productId db ≠ [] → ∀ p, (g p).stockQuantity = p.stockQuantity ∧
    (g p).price = p.price ∧ (g p).minPrice = p.minPrice ∧ (g p).maxPrice = p.maxPrice
  stock : e.setsStock productId db = false → ∀ p, (g p).stockQuantity = p.stockQuantity

theorem sets_id (h : (e.apply db).products.find? productId = db.products.find? productId)
    (hchoice : e.chooses? productId db = none) : e.Sets productId db id where
  product := by rw [h, Option.map_id_fun, id]
  status p := by rw [hchoice]; rfl
  figures _ _ := ⟨rfl, rfl, rfl, rfl⟩
  stock _ _ := rfl

theorem chooses?_of_refused (h : (e.result db).isOk = false) : e.chooses? productId db = none := by
  cases e with
  | updateProduct id data caller =>
    exact if_neg fun hand => absurd hand.2 (by rw [h]; decide)
  | deleteProduct id caller => exact if_neg fun hand => absurd hand.2 (by rw [h]; decide)
  | _ => rfl

theorem chooses?_of_sync {id : String} (h : e.syncs? db = some id) :
    e.chooses? productId db = none := by
  cases e with
  | updateProduct _ _ _ => cases h
  | deleteProduct _ _ => cases h
  | _ => rfl

theorem setsStock_of_sync {id : String} (h : e.syncs? db = some id) :
    e.setsStock productId db = false := by
  cases e with
  | updateProduct _ _ _ => cases h
  | _ => rfl

theorem sets_updateProduct {id : String} {data : UpdateProductInput} {caller : CatalogueCaller}
    (h : ProductService.updateProduct id data caller db = .ok db') :
    (∃ products, db' = { db with products }) ∧
      ∃ g, (CatalogueStep.updateProduct id data caller).Sets productId db g := by
  have hok : ((CatalogueStep.updateProduct id data caller).result db).isOk = true :=
    isOk_iff.mpr ⟨db', h⟩
  have happly : (CatalogueStep.updateProduct id data caller).apply db = db' := by
    rw [apply, result, h]
    rfl
  rw [ProductService.updateProduct] at h
  split at h
  · cases h
  · obtain ⟨u, -, h⟩ := bind_eq_ok.mp h
    dsimp only at h
    split at h
    · cases h
    · cases h
      refine ⟨⟨_, rfl⟩, ?_⟩
      by_cases hid : id = productId
      · subst hid
        refine ⟨updatedProduct data (!(activeVariants id db).isEmpty), ?_, fun p => ?_,
          fun hactive p => ?_, fun hsets p => ?_⟩
        · rw [happly]
          exact (Table.find?_update db.products id id _ (updatedProduct_productId data _)).trans
            (if_pos rfl)
        · rw [chooses?, if_pos ⟨rfl, hok⟩, updatedProduct]
        · have hsome : (!(activeVariants id db).isEmpty) = true := by
            rw [Bool.not_eq_true', List.isEmpty_eq_false_iff]
            exact hactive
          rw [hsome]
          exact ⟨rfl, rfl, rfl, rfl⟩
        · have hstock : data.stockQuantity = none := by
            by_contra hsome
            exact absurd hsets (by simp [setsStock, hok, Option.isSome_iff_ne_none, hsome])
          rw [updatedProduct, hstock]
          split <;> rfl
      · refine ⟨_, sets_id ?_ (if_neg fun hand => hid hand.1)⟩
        rw [happly]
        exact (Table.find?_update db.products id productId _
          (updatedProduct_productId data _)).trans (if_neg fun he => hid he.symm)

theorem sets_deleteProduct {id : String} {caller : CatalogueCaller}
    (h : ProductService.deleteProduct id caller db = .ok db') :
    (∃ products, db' = { db with products }) ∧
      ∃ g, (CatalogueStep.deleteProduct id caller).Sets productId db g := by
  have hok : ((CatalogueStep.deleteProduct id caller).result db).isOk = true :=
    isOk_iff.mpr ⟨db', h⟩
  have happly : (CatalogueStep.deleteProduct id caller).apply db = db' := by
    rw [apply, result, h]
    rfl
  rw [ProductService.deleteProduct] at h
  split at h
  · cases h
  · obtain ⟨u, -, h⟩ := bind_eq_ok.mp h
    cases h
    refine ⟨⟨_, rfl⟩, ?_⟩
    have hfind := Table.find?_update db.products id productId _
      (Product.withStatus_productId .archived)
    by_cases hid : id = productId
    · subst hid
      refine ⟨Product.withStatus .archived, by rw [happly]; exact hfind.trans (if_pos rfl),
        fun p => ?_, fun _ _ => ⟨rfl, rfl, rfl, rfl⟩, fun _ _ => rfl⟩
      rw [chooses?, if_pos ⟨rfl, hok⟩]
      rfl
    · refine ⟨_, sets_id ?_ (if_neg fun hand => hid hand.1)⟩
      rw [happly]
      exact hfind.trans (if_neg fun he => hid he.symm)

/-- An operation that goes through and recomputes no figures is one on the product itself. -/
theorem sets_of_unsynced (productId : String) (h : e.result db = .ok db')
    (hsync : e.syncs? db = none) :
    (∃ products, db' = { db with products }) ∧ ∃ g, e.Sets productId db g := by
  cases e with
  | updateProduct id data caller => exact sets_updateProduct h
  | deleteProduct id caller => exact sets_deleteProduct h
  | addVariant data caller variantId => cases hsync
  | bulkCreateVariants id variants caller variantId => cases hsync
  | updateVariant variantId data caller =>
    obtain ⟨v, hown, -⟩ := bind_eq_ok.mp h
    rw [syncs?, (VariantService.ownVariant_eq_ok hown).1] at hsync
    cases hsync
  | updateVariantStock variantId stockQuantity caller =>
    obtain ⟨v, hown, -⟩ := bind_eq_ok.mp h
    rw [syncs?, (VariantService.ownVariant_eq_ok hown).1] at hsync
    cases hsync
  | deactivateVariant variantId isActive caller =>
    obtain ⟨v, hown, -⟩ := bind_eq_ok.mp h
    rw [syncs?, (VariantService.ownVariant_eq_ok hown).1] at hsync
    cases hsync
  | removeVariant variantId caller =>
    obtain ⟨v, hown, -⟩ := bind_eq_ok.mp h
    rw [syncs?, (VariantService.ownVariant_eq_ok hown).1] at hsync
    cases hsync

/-- What an operation does to a product: it recomputes the figures of the product after
writing variants, or recomputes nothing of it. -/
theorem apply_cases (productId : String) (db : Database) (e : CatalogueStep) :
    (∃ db₁, ChangesVariants productId e.touches? db db₁ ∧ e.syncs? db = some productId ∧
      (e.result db).isOk = true ∧ (db.products.find? productId).isSome = true ∧
      e.apply db = syncStats productId db₁) ∨
    (e.syncs? db = some productId → (e.result db).isOk = false) ∧
      activeVariants productId (e.apply db) = activeVariants productId db ∧
      ∃ g, e.Sets productId db g := by
  cases h : e.result db with
  | error err =>
    have hrefused : (e.result db).isOk = false := by
      rw [h]
      rfl
    have happly : e.apply db = db := by
      rw [apply, h]
      rfl
    exact .inr ⟨fun _ => rfl, by rw [happly], id, sets_id (by rw [happly])
      (chooses?_of_refused hrefused)⟩
  | ok db' =>
    have happly : e.apply db = db' := by
      rw [apply, h]
      rfl
    cases hsync : e.syncs? db with
    | some id =>
      obtain ⟨hexists, db₁, hchanges, rfl⟩ := result_eq_sync h hsync
      by_cases hid : id = productId
      · subst hid
        exact .inl ⟨db₁, hchanges, rfl, rfl, hexists, happly⟩
      · have hne : productId ≠ id := fun he => hid he.symm
        refine .inr ⟨fun he => absurd (Option.some.inj he) hid, ?_, _,
          sets_id ?_ (chooses?_of_sync hsync)⟩
        · rw [happly, activeVariants_congr syncStats_productVariants,
            hchanges.activeVariants_other hne]
        · rw [happly, find?_syncStats_other hne, hchanges.products_eq]
    | none =>
      refine .inr ⟨fun he => (by cases he), ?_⟩
      obtain ⟨⟨products, rfl⟩, hsets⟩ := sets_of_unsynced productId h hsync
      rw [happly, activeVariants_congr rfl]
      exact ⟨rfl, hsets⟩

end CatalogueStep

end InstalFlow
