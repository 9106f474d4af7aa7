import InstalFlow.Categories
import InstalFlow.ProductCatalogue
import InstalFlow.Relational.Appends

/-!
# Products created one at a time and in bulk

A bulk import creates its products with their plans and variants in one transaction, and
recomputes the figures of each product that has variants. It refuses a list in which a SKU
stands twice or of which some variant has one already.
-/

namespace InstalFlow
open Relational

structure InstallmentPlanInput where
  durationMonths : ℤ
  interestPercentage : ℚ
  active : Option Bool := none

structure CreateProductInput where
  name : String
  categoryId : String
  commissionRate : ℚ := 0
  status : ProductStatus := .draft
  price : ℚ := 0
  stockQuantity : ℤ := 0
  installmentPlans : List InstallmentPlanInput := []

structure BulkCreateProductInput extends CreateProductInput where
  variants : List BulkCreateVariantInput := []

/-- What the database and `randomUUID` choose for one product -/
structure ProductMoment where
  productId : String
  uuid : String := ""
  planId : ℕ → String := fun _ => ""
  variantId : ℕ → String := fun _ => ""
  now : DateTime := 0

namespace InstallmentPlanService

def newPlan (productId planId : String) (data : InstallmentPlanInput) : ProductInstallmentPlan where
  planId := planId
  productId := productId
  durationMonths := data.durationMonths
  interestPercentage := data.interestPercentage
  active := data.active.getD true

def newPlans (productId : String) (planId : ℕ → String) :
    ℕ → List InstallmentPlanInput → List ProductInstallmentPlan
  | _, [] => []
  | n, data :: rest => newPlan productId (planId n) data :: newPlans productId planId (n + 1) rest

def createPlan (row : ProductInstallmentPlan) (db : Database) : Except AppError Database := do
  let productInstallmentPlans ← createRow db.productInstallmentPlans row ["planId"]
  return { db with productInstallmentPlans }

def createPlans : List ProductInstallmentPlan → Database → Except AppError Database
  | [], db => .ok db
  | row :: rows, db => do
    let db ← createPlan row db
    createPlans rows db

end InstallmentPlanService

namespace ProductService

def generateSlug (name uuid : String) : String :=
  CategoryService.generateSlug name ++ "-" ++ String.ofList (uuid.toList.take 8)

def newProduct (companyId : Option String) (data : CreateProductInput) (m : ProductMoment) :
    Product where
  productId := m.productId
  name := data.name
  slug := generateSlug data.name m.uuid
  companyId := companyId
  stockQuantity := data.stockQuantity
  price := data.price
  commissionRate := data.commissionRate
  status := data.status
  categoryId := data.categoryId
  createdAt := m.now

/-- The insertion under the unique keys and the foreign keys of a product -/
def insertProduct (row : Product) (db : Database) : Except AppError Database :=
  if (db.categories.find? row.categoryId).isNone ∨
      row.companyId.any fun c => (db.companies.find? c).isNone then
    .error (.error "Foreign key constraint violated")
  else if db.products.rows.any fun p => p.slug = row.slug then .error (.uniqueViolation ["slug"])
  else do
    let products ← createRow db.products row ["productId"]
    return { db with products }

def createProduct (companyId : Option String) (data : CreateProductInput) (m : ProductMoment)
    (db : Database) : Except AppError Database := do
  let db ← insertProduct (newProduct companyId data m) db
  InstallmentPlanService.createPlans
    (InstallmentPlanService.newPlans m.productId m.planId 0 data.installmentPlans) db

/-- One pass of the import's loop -/
def importProduct (companyId : Option String) (item : BulkCreateProductInput) (m : ProductMoment)
    (db : Database) : Except AppError Database := do
  let db ← createProduct companyId item.toCreateProductInput m db
  if item.variants.isEmpty then return db
  let db ← VariantService.createVariants m.productId m.variantId 0 item.variants db
  return syncStats m.productId db

def importProducts (companyId : Option String) (m : ℕ → ProductMoment) :
    ℕ → List BulkCreateProductInput → Database → Except AppError Database
  | _, [], db => .ok db
  | n, item :: rest, db => do
    let db ← importProduct companyId item (m n) db
    importProducts companyId m (n + 1) rest db

def payloadSkus (products : List BulkCreateProductInput) : List String :=
  products.flatMap fun p => p.variants.map BulkCreateVariantInput.sku

/-- `filter((sku, index) => skus.indexOf(sku) !== index)` -/
def duplicates (skus : List String) : List String :=
  (skus.zipIdx.filter fun (sku, index) => skus.idxOf sku ≠ index).map Prod.fst

def createProductsBulk (companyId : Option String) (products : List BulkCreateProductInput)
    (m : ℕ → ProductMoment) (db : Database) : Except AppError Database :=
  if products.isEmpty then .error (.badRequest "At least one product is required")
  else if 50 < products.length then
    .error (.badRequest "Maximum 50 products per bulk import")
  else if !(duplicates (payloadSkus products)).isEmpty then
    .error (.badRequest ("Duplicate SKU(s) in import: " ++
      ", ".intercalate (duplicates (payloadSkus products)).eraseDups))
  else
    let existing := db.productVariants.rows.filter fun v => v.sku ∈ payloadSkus products
    if !existing.isEmpty then
      .error (.badRequest ("Variant SKU(s) already exist: " ++
        ", ".intercalate (existing.map ProductVariant.sku)))
    else importProducts companyId m 0 products db

/-- The products of an import, each with what is chosen for it -/
def batch (m : ℕ → ProductMoment) :
    ℕ → List BulkCreateProductInput → List (BulkCreateProductInput × ProductMoment)
  | _, [] => []
  | n, item :: rest => (item, m n) :: batch m (n + 1) rest

def newVariants (productId : String) (variantId : ℕ → String) :
    ℕ → List BulkCreateVariantInput → List ProductVariant
  | _, [] => []
  | n, data :: rest => VariantService.newVariant productId (variantId n) data ::
      newVariants productId variantId (n + 1) rest

def importedVariants (x : BulkCreateProductInput × ProductMoment) : List ProductVariant :=
  newVariants x.2.productId x.2.variantId 0 x.1.variants

def importedPlans (x : BulkCreateProductInput × ProductMoment) : List ProductInstallmentPlan :=
  InstallmentPlanService.newPlans x.2.productId x.2.planId 0 x.1.installmentPlans

/-- A product whose variants are `variants`, with the figures of the active ones -/
def stocked (variants : List ProductVariant) (p : Product) : Product :=
  let active := variants.filter ProductVariant.isActive
  let prices := active.map ProductVariant.price
  match prices.min?, prices.max? with
  | some minPrice, some maxPrice =>
      syncedProduct minPrice maxPrice (active.map ProductVariant.stockQuantity).sum p
  | _, _ => p

def importedProduct (companyId : Option String) (x : BulkCreateProductInput × ProductMoment) :
    Product :=
  stocked (importedVariants x) (newProduct companyId x.1.toCreateProductInput x.2)

end ProductService

/-- The rows that a product refers to are there. -/
def Database.Refers (companyId : Option String) (data : CreateProductInput) (db : Database) :
    Prop :=
  (db.categories.find? data.categoryId).isSome ∧
    ∀ c ∈ companyId, (db.companies.find? c).isSome

/-- Slugs and SKUs are unique, and a variant has a product. -/
structure Database.Stocked (db : Database) : Prop where
  slugs : (db.products.rows.map Product.slug).Nodup
  skus : (db.productVariants.rows.map ProductVariant.sku).Nodup
  products : ∀ v ∈ db.productVariants.rows, (db.products.find? v.productId).isSome

/-- The products are referred to rows that are there, and stand behind the others with their
plans and variants, under unique keys. -/
structure Imports (companyId : Option String) (xs : List (BulkCreateProductInput × ProductMoment))
    (db db' : Database) : Prop where
  refers : ∀ x ∈ xs, db.Refers companyId x.1.toCreateProductInput
  slugs : (db.products.rows.map Product.slug ++
    xs.map fun x => ProductService.generateSlug x.1.name x.2.uuid).Nodup
  skus : (db.productVariants.rows.map ProductVariant.sku ++
    xs.flatMap fun x => x.1.variants.map BulkCreateVariantInput.sku).Nodup
  products : db.products.createList (xs.map (ProductService.importedProduct companyId)) =
    some db'.products
  variants : db.productVariants.createList (xs.flatMap ProductService.importedVariants) =
    some db'.productVariants
  plans : db.productInstallmentPlans.createList (xs.flatMap ProductService.importedPlans) =
    some db'.productInstallmentPlans
  elsewhere : db' = { db with
    products := db'.products, productVariants := db'.productVariants
    productInstallmentPlans := db'.productInstallmentPlans }

section creation
variable {companyId : Option String} {db db' : Database}

theorem InstallmentPlanService.createPlans_eq_ok_iff {rows : List ProductInstallmentPlan} :
    createPlans rows db = .ok db' ↔ ∃ plans,
      db.productInstallmentPlans.createList rows = some plans ∧
        db' = { db with productInstallmentPlans := plans } := by
  induction rows generalizing db with
  | nil =>
    rw [createPlans, Except.ok.injEq]
    constructor
    · rintro rfl
      exact ⟨_, rfl, rfl⟩
    · rintro ⟨plans, hplans, rfl⟩
      cases hplans
      rfl
  | cons row rows ih =>
    rw [createPlans, bind_eq_ok, Table.createList]
    constructor
    · rintro ⟨db₁, hplan, hrest⟩
      obtain ⟨plans, hcreate, hdb⟩ := bind_eq_ok.mp hplan
      cases hdb
      obtain ⟨plans', hlist, rfl⟩ := ih.mp hrest
      refine ⟨plans', ?_, rfl⟩
      rw [createRow_eq_ok.mp hcreate]
      exact hlist
    · rintro ⟨plans', hlist, rfl⟩
      obtain ⟨plans, hcreate, hrest⟩ := Option.bind_eq_some_iff.mp hlist
      refine ⟨{ db with productInstallmentPlans := plans }, ?_, ih.mpr ⟨plans', hrest, rfl⟩⟩
      exact bind_eq_ok.mpr ⟨plans, createRow_eq_ok.mpr hcreate, rfl⟩

namespace VariantService

theorem createVariant_eq_ok_iff {row : ProductVariant} : createVariant row db = .ok db' ↔
    row.sku ∉ db.productVariants.rows.map ProductVariant.sku ∧ ∃ variants,
      db.productVariants.create row = some variants ∧
        db' = { db with productVariants := variants } := by
  have htaken : skuTaken row.sku db = true ↔
      row.sku ∈ db.productVariants.rows.map ProductVariant.sku := by
    simp [skuTaken]
  rw [createVariant]
  split
  · rename_i hsku
    refine iff_of_false (by simp) fun h => h.1 (htaken.mp hsku)
  · rename_i hsku
    cases hcreate : db.productVariants.create row with
    | none => simp [createRow, hcreate]
    | some variants => simp [createRow, hcreate, mt htaken.mpr hsku, eq_comm]

theorem createVariants_eq_ok_iff {productId : String} {ids : ℕ → String} {n : ℕ}
    {variants : List BulkCreateVariantInput}
    (hskus : (db.productVariants.rows.map ProductVariant.sku).Nodup) :
    createVariants productId ids n variants db = .ok db' ↔
      (db.productVariants.rows.map ProductVariant.sku ++
        variants.map BulkCreateVariantInput.sku).Nodup ∧ ∃ rows,
        db.productVariants.createList (ProductService.newVariants productId ids n variants) =
          some rows ∧ db' = { db with productVariants := rows } := by
  induction variants generalizing n db with
  | nil =>
    rw [createVariants, Except.ok.injEq, List.map_nil, List.append_nil]
    constructor
    · rintro rfl
      exact ⟨hskus, _, rfl, rfl⟩
    · rintro ⟨-, rows, hrows, rfl⟩
      cases hrows
      rfl
  | cons data rest ih =>
    rw [createVariants, bind_eq_ok, List.map_cons, Table.nodup_append_cons]
    constructor
    · rintro ⟨db₁, hvariant, hrest⟩
      obtain ⟨hsku, rows, hcreate, rfl⟩ := createVariant_eq_ok_iff.mp hvariant
      have hrows : rows.rows.map ProductVariant.sku =
          db.productVariants.rows.map ProductVariant.sku ++ [data.sku] := by
        rw [(Table.create_eq_some_iff.mp hcreate).2, List.map_append]
        rfl
      have hnext : (rows.rows.map ProductVariant.sku).Nodup := by
        rw [hrows]
        exact Table.nodup_append_singleton.mpr ⟨hsku, hskus⟩
      obtain ⟨hnodup, rows', hlist, rfl⟩ := (ih hnext).mp hrest
      refine ⟨hrows ▸ hnodup, rows', ?_, rfl⟩
      rw [ProductService.newVariants, Table.createList, hcreate]
      exact hlist
    · rintro ⟨hnodup, rows', hlist, rfl⟩
      obtain ⟨rows, hcreate, hrest⟩ := Option.bind_eq_some_iff.mp hlist
      have hrows : rows.rows.map ProductVariant.sku =
          db.productVariants.rows.map ProductVariant.sku ++ [data.sku] := by
        rw [(Table.create_eq_some_iff.mp hcreate).2, List.map_append]
        rfl
      have hnext := (List.nodup_append.mp hnodup).1
      refine ⟨{ db with productVariants := rows }, createVariant_eq_ok_iff.mpr
        ⟨(Table.nodup_append_singleton.mp hnext).1, rows, hcreate, rfl⟩, ?_⟩
      exact (ih (hrows ▸ hnext)).mpr ⟨hrows ▸ hnodup, rows', hrest, rfl⟩

end VariantService

namespace ProductService
variable {data : CreateProductInput} {m : ProductMoment}
  {x : BulkCreateProductInput × ProductMoment} {xs : List (BulkCreateProductInput × ProductMoment)}

theorem insertProduct_eq_ok_iff : insertProduct (newProduct companyId data m) db = .ok db' ↔
    db.Refers companyId data ∧
      generateSlug data.name m.uuid ∉ db.products.rows.map Product.slug ∧ ∃ products,
      db.products.create (newProduct companyId data m) = some products ∧
        db' = { db with products } := by
  have hrefers : db.Refers companyId data ↔
      ¬((db.categories.find? (newProduct companyId data m).categoryId).isNone ∨
        (newProduct companyId data m).companyId.any fun c => (db.companies.find? c).isNone) := by
    cases companyId <;> simp [Database.Refers, newProduct, Option.isSome_iff_ne_none]
  have htaken : (db.products.rows.any fun p => p.slug = (newProduct companyId data m).slug) = true ↔
      generateSlug data.name m.uuid ∈ db.products.rows.map Product.slug := by
    rw [List.any_eq_true, List.mem_map]
    exact exists_congr fun p => and_congr_right fun _ => decide_eq_true_iff
  rw [insertProduct]
  split
  · rename_i hnone
    exact iff_of_false (by simp) fun h => hrefers.mp h.1 hnone
  · rename_i hsome
    split
    · rename_i hslug
      exact iff_of_false (by simp) fun h => h.2.1 (htaken.mp hslug)
    · rename_i hslug
      rw [bind_eq_ok]
      constructor
      · rintro ⟨products, hcreate, h⟩
        cases h
        exact ⟨hrefers.mpr hsome, mt htaken.mpr hslug, products, createRow_eq_ok.mp hcreate, rfl⟩
      · rintro ⟨-, -, products, hcreate, rfl⟩
        exact ⟨products, createRow_eq_ok.mpr hcreate, rfl⟩

theorem productId_stocked (variants : List ProductVariant) (p : Product) :
    (stocked variants p).productId = p.productId := by
  rw [stocked]
  split <;> rfl

theorem slug_stocked (variants : List ProductVariant) (p : Product) :
    (stocked variants p).slug = p.slug := by
  rw [stocked]
  split <;> rfl

theorem productId_newVariants {productId : String} {ids : ℕ → String} {n : ℕ}
    {variants : List BulkCreateVariantInput} :
    ∀ v ∈ newVariants productId ids n variants, v.productId = productId := by
  induction variants generalizing n with
  | nil => exact fun v hv => by cases hv
  | cons data rest ih =>
    intro v hv
    rcases List.mem_cons.mp hv with rfl | hv
    · rfl
    · exact ih v hv

/-- The figures that the loop recomputes are those of the new variants. -/
theorem syncStats_appended {p : Product} {variants : List ProductVariant}
    {db : Database} {rows : List Product} (hrows : db.products.rows = rows ++ [p])
    (hnew : ∀ q ∈ rows, q.productId ≠ p.productId)
    (hactive : activeVariants p.productId db = variants.filter ProductVariant.isActive) :
    (syncStats p.productId db).products.rows = rows ++ [stocked variants p] := by
  have hother (f : Product → Product) :
      rows.map (fun q => if q.productId = p.productId then f q else q) = rows :=
    (List.map_congr_left fun q hq => if_neg (hnew q hq)).trans (List.map_id rows)
  rw [syncStats, stocked, hactive]
  cases hmin : ((variants.filter ProductVariant.isActive).map ProductVariant.price).min? with
  | none => exact hrows
  | some minPrice =>
    cases hmax : ((variants.filter ProductVariant.isActive).map ProductVariant.price).max? with
    | none => exact hrows
    | some maxPrice =>
      simp only [Table.update, Table.updateMany, hrows, decide_eq_true_eq, List.map_append, hother,
        List.map_singleton, if_pos]

theorem createProduct_eq_ok_iff : createProduct companyId data m db = .ok db' ↔
    db.Refers companyId data ∧
      generateSlug data.name m.uuid ∉ db.products.rows.map Product.slug ∧ ∃ products plans,
      db.products.create (newProduct companyId data m) = some products ∧
        db.productInstallmentPlans.createList
          (InstallmentPlanService.newPlans m.productId m.planId 0 data.installmentPlans) =
            some plans ∧
        db' = { db with products, productInstallmentPlans := plans } := by
  rw [createProduct, bind_eq_ok]
  constructor
  · rintro ⟨db₁, hproduct, hplans⟩
    obtain ⟨hrefers, hslug, products, hcreate, rfl⟩ := insertProduct_eq_ok_iff.mp hproduct
    obtain ⟨plans, hlist, rfl⟩ := InstallmentPlanService.createPlans_eq_ok_iff.mp hplans
    exact ⟨hrefers, hslug, products, plans, hcreate, hlist, rfl⟩
  · rintro ⟨hrefers, hslug, products, plans, hcreate, hlist, rfl⟩
    exact ⟨_, insertProduct_eq_ok_iff.mpr ⟨hrefers, hslug, products, hcreate, rfl⟩,
      InstallmentPlanService.createPlans_eq_ok_iff.mpr ⟨plans, hlist, rfl⟩⟩

theorem activeVariants_appended {productId : String} {variants : List ProductVariant}
    {db db' : Database} (hrows : db'.productVariants.rows = db.productVariants.rows ++ variants)
    (hold : ∀ v ∈ db.productVariants.rows, v.productId ≠ productId)
    (hnew : ∀ v ∈ variants, v.productId = productId) :
    activeVariants productId db' = variants.filter ProductVariant.isActive := by
  rw [activeVariants, hrows, List.filter_append, List.filter_eq_nil_iff.mpr, List.nil_append]
  · exact List.filter_congr fun v hv => by simp [hnew v hv]
  · exact fun v hv => by simp [hold v hv]

/-- The pass of a product without variants recomputes nothing. -/
theorem importProduct_eq (item : BulkCreateProductInput) (m : ProductMoment) (db : Database) :
    importProduct companyId item m db =
      createProduct companyId item.toCreateProductInput m db >>= fun db =>
        VariantService.createVariants m.productId m.variantId 0 item.variants db >>= fun db =>
          .ok (if item.variants.isEmpty then db else syncStats m.productId db) := by
  rw [importProduct]
  refine congrArg _ (funext fun db => ?_)
  cases item.variants <;> rfl

theorem importedProduct_productId (x : BulkCreateProductInput × ProductMoment) :
    (importedProduct companyId x).productId = x.2.productId := productId_stocked _ _

/-- The product as it is created, and as it is at last -/
theorem create_importedProduct_iff {products : Table Product.productId} :
    db.products.create (importedProduct companyId x) = some products ↔
      x.2.productId ∉ db.products.rows.map Product.productId ∧
        products.rows = db.products.rows ++ [importedProduct companyId x] := by
  rw [Table.create_eq_some_iff, importedProduct_productId]

theorem sync_imported (h : db.Stocked) {plans : Table ProductInstallmentPlan.planId}
    {products products' : Table Product.productId} {variants : Table ProductVariant.variantId}
    (hnew : db.products.create (newProduct companyId x.1.toCreateProductInput x.2) = some products)
    (hlast : db.products.create (importedProduct companyId x) = some products')
    (hlist : db.productVariants.createList (importedVariants x) = some variants) :
    let db₁ : Database := { db with
      products, productVariants := variants, productInstallmentPlans := plans }
    (if x.1.variants.isEmpty then db₁ else syncStats x.2.productId db₁) =
      { db₁ with products := products' } := by
  intro db₁
  obtain ⟨hfresh, hproducts'⟩ := create_importedProduct_iff.mp hlast
  have hproducts := (Table.create_eq_some_iff.mp hnew).2
  have hvariants := (Table.createList_eq_some_iff.mp hlist).2
  have hold : ∀ v ∈ db.productVariants.rows, v.productId ≠ x.2.productId := by
    rintro v hv heq
    obtain ⟨p, hp⟩ := Option.isSome_iff_exists.mp (h.products v hv)
    exact hfresh (List.mem_map.mpr ⟨p, Table.mem_of_find? hp, (Table.find?_key hp).trans heq⟩)
  split
  · rename_i hempty
    have hsame : products' = products := by
      refine Table.ext ?_
      rw [hproducts', hproducts, importedProduct, importedVariants, List.isEmpty_iff.mp hempty]
      rfl
    rw [hsame]
  · obtain ⟨synced, hsynced⟩ := syncStats_frame x.2.productId db₁
    have hactive : activeVariants x.2.productId db₁ =
        (importedVariants x).filter ProductVariant.isActive :=
      activeVariants_appended hvariants hold productId_newVariants
    have hrows : (syncStats x.2.productId db₁).products.rows = products'.rows :=
      (syncStats_appended (p := newProduct companyId x.1.toCreateProductInput x.2) hproducts
        (fun q hq heq => hfresh (List.mem_map.mpr ⟨q, hq, heq⟩)) hactive).trans hproducts'.symm
    rw [hsynced] at hrows ⊢
    obtain rfl : synced = products' := Table.ext hrows
    rfl

/-- What one pass of the loop leaves, and when it succeeds -/
theorem importProduct_eq_ok_iff (h : db.Stocked) :
    importProduct companyId x.1 x.2 db = .ok db' ↔
      db.Refers companyId x.1.toCreateProductInput ∧
      generateSlug x.1.name x.2.uuid ∉ db.products.rows.map Product.slug ∧
      (db.productVariants.rows.map ProductVariant.sku ++
        x.1.variants.map BulkCreateVariantInput.sku).Nodup ∧ ∃ products variants plans,
      db.products.create (importedProduct companyId x) = some products ∧
      db.productVariants.createList (importedVariants x) = some variants ∧
      db.productInstallmentPlans.createList (importedPlans x) = some plans ∧
      db' = { db with
        products, productVariants := variants, productInstallmentPlans := plans } := by
  rw [importProduct_eq, bind_eq_ok]
  constructor
  · rintro ⟨db₁, hproduct, hrest⟩
    obtain ⟨hrefers, hslug, products, plans, hnew, hplans, rfl⟩ :=
      createProduct_eq_ok_iff.mp hproduct
    obtain ⟨db₂, hvariants, hsync⟩ := bind_eq_ok.mp hrest
    let db₁ : Database := { db with products, productInstallmentPlans := plans }
    have hskus₁ : (db₁.productVariants.rows.map ProductVariant.sku).Nodup := h.skus
    obtain ⟨hskus, variants, hlist, rfl⟩ :=
      (VariantService.createVariants_eq_ok_iff hskus₁).mp hvariants
    obtain ⟨products', hlast⟩ : ∃ products',
        db.products.create (importedProduct companyId x) = some products' := by
      refine Table.create_isSome (Table.find?_eq_none_iff.mpr fun q hq heq => ?_)
      rw [importedProduct_productId] at heq
      exact (Table.create_eq_some_iff.mp hnew).1 (List.mem_map.mpr ⟨q, hq, heq⟩)
    refine ⟨hrefers, hslug, hskus, products', variants, plans, hlast, hlist, hplans, ?_⟩
    exact (Except.ok.inj hsync).symm.trans (sync_imported h hnew hlast hlist)
  · rintro ⟨hrefers, hslug, hskus, products', variants, plans, hlast, hlist, hplans, rfl⟩
    obtain ⟨products, hnew⟩ : ∃ products,
        db.products.create (newProduct companyId x.1.toCreateProductInput x.2) = some products := by
      refine Table.create_isSome (Table.find?_eq_none_iff.mpr fun q hq heq => ?_)
      exact (create_importedProduct_iff.mp hlast).1 (List.mem_map.mpr ⟨q, hq, heq⟩)
    let db₁ : Database := { db with products, productInstallmentPlans := plans }
    have hskus₁ : (db₁.productVariants.rows.map ProductVariant.sku).Nodup := h.skus
    refine ⟨db₁, createProduct_eq_ok_iff.mpr ⟨hrefers, hslug, products, plans, hnew, hplans, rfl⟩,
      bind_eq_ok.mpr ⟨_, (VariantService.createVariants_eq_ok_iff hskus₁).mpr
        ⟨hskus, variants, hlist, rfl⟩, ?_⟩⟩
    exact congrArg Except.ok (sync_imported h hnew hlast hlist)

/-- The import of one product -/
theorem imports_singleton_iff : Imports companyId [x] db db' ↔
    db.Refers companyId x.1.toCreateProductInput ∧
      (db.products.rows.map Product.slug ++ [generateSlug x.1.name x.2.uuid]).Nodup ∧
      (db.productVariants.rows.map ProductVariant.sku ++
        x.1.variants.map BulkCreateVariantInput.sku).Nodup ∧ ∃ products variants plans,
      db.products.create (importedProduct companyId x) = some products ∧
      db.productVariants.createList (importedVariants x) = some variants ∧
      db.productInstallmentPlans.createList (importedPlans x) = some plans ∧
      db' = { db with
        products, productVariants := variants, productInstallmentPlans := plans } := by
  constructor
  · rintro ⟨hrefers, hslugs, hskus, hproducts, hvariants, hplans, hdb⟩
    rw [List.map_singleton, Table.createList_singleton] at hproducts
    rw [List.flatMap_singleton] at hvariants hplans hskus
    exact ⟨hrefers x List.mem_cons_self, hslugs, hskus, _, _, _, hproducts, hvariants, hplans, hdb⟩
  · rintro ⟨hrefers, hslug, hskus, products, variants, plans, hproduct, hvariants, hplans, rfl⟩
    refine ⟨fun y hy => ?_, hslug, ?_, ?_, ?_, ?_, rfl⟩
    · rwa [List.mem_singleton.mp hy]
    · rwa [List.flatMap_singleton]
    · rwa [List.map_singleton, Table.createList_singleton]
    · rwa [List.flatMap_singleton]
    · rwa [List.flatMap_singleton]

/-- The keys of rows that were created are those of the tables they were created in. -/
theorem rows_of_imports (h : Imports companyId xs db db') :
    db'.products.rows = db.products.rows ++ xs.map (importedProduct companyId) ∧
      db'.productVariants.rows = db.productVariants.rows ++ xs.flatMap importedVariants ∧
      db'.productInstallmentPlans.rows =
        db.productInstallmentPlans.rows ++ xs.flatMap importedPlans :=
  ⟨(Table.createList_eq_some_iff.mp h.products).2, (Table.createList_eq_some_iff.mp h.variants).2,
    (Table.createList_eq_some_iff.mp h.plans).2⟩

theorem sku_newVariants (productId : String) (ids : ℕ → String) (n : ℕ)
    (variants : List BulkCreateVariantInput) :
    (newVariants productId ids n variants).map ProductVariant.sku =
      variants.map BulkCreateVariantInput.sku := by
  induction variants generalizing n with
  | nil => rfl
  | cons data rest ih => exact congrArg _ (ih (n + 1))

theorem map_slug_imported (xs : List (BulkCreateProductInput × ProductMoment)) :
    (xs.map (importedProduct companyId)).map Product.slug =
      xs.map fun x => generateSlug x.1.name x.2.uuid := by
  rw [List.map_map]
  exact List.map_congr_left fun x _ => slug_stocked _ _

theorem map_sku_imported (xs : List (BulkCreateProductInput × ProductMoment)) :
    (xs.flatMap importedVariants).map ProductVariant.sku =
      xs.flatMap fun x => x.1.variants.map BulkCreateVariantInput.sku := by
  rw [List.map_flatMap]
  exact List.flatMap_congr fun x _ => sku_newVariants _ _ _ _

/-- An import keeps the constraints of the catalogue. -/
theorem stocked_of_imports (h : Imports companyId xs db db') (hdb : db.Stocked) : db'.Stocked := by
  obtain ⟨hproducts, hvariants, -⟩ := rows_of_imports h
  refine ⟨?_, ?_, fun v hv => ?_⟩
  · rw [hproducts, List.map_append, map_slug_imported]
    exact h.slugs
  · rw [hvariants, List.map_append, map_sku_imported]
    exact h.skus
  · have hfound {productId : String} (hmem : productId ∈ db'.products.rows.map Product.productId) :
        (db'.products.find? productId).isSome := by
      rw [Option.isSome_iff_ne_none]
      intro hnone
      obtain ⟨p, hp, hid⟩ := List.mem_map.mp hmem
      exact Table.find?_eq_none_iff.mp hnone p hp hid
    refine hfound ?_
    rw [hproducts, List.map_append, List.mem_append]
    rw [hvariants, List.mem_append] at hv
    rcases hv with hv | hv
    · obtain ⟨p, hp⟩ := Option.isSome_iff_exists.mp (hdb.products v hv)
      exact .inl (List.mem_map.mpr ⟨p, Table.mem_of_find? hp, Table.find?_key hp⟩)
    · obtain ⟨x, hx, hv⟩ := List.mem_flatMap.mp hv
      refine .inr (List.mem_map.mpr ⟨_, List.mem_map_of_mem hx, ?_⟩)
      rw [importedProduct_productId, productId_newVariants v hv]

/-- An import is the import of its first product, and then of the others. -/
theorem imports_cons_iff : Imports companyId (x :: xs) db db' ↔
    ∃ db₁, Imports companyId [x] db db₁ ∧ Imports companyId xs db₁ db' := by
  constructor
  · rintro ⟨hrefers, hslugs, hskus, hproducts, hvariants, hplans, hdb⟩
    rw [List.flatMap_cons, Table.createList_append] at hvariants hplans
    obtain ⟨products, hproduct, hproducts⟩ := Option.bind_eq_some_iff.mp hproducts
    obtain ⟨variants, hvariant, hvariants⟩ := Option.bind_eq_some_iff.mp hvariants
    obtain ⟨plans, hplan, hplans⟩ := Option.bind_eq_some_iff.mp hplans
    rw [List.map_cons, Table.nodup_append_cons] at hslugs
    rw [List.flatMap_cons, ← List.append_assoc] at hskus
    let db₁ : Database := { db with
      products, productVariants := variants, productInstallmentPlans := plans }
    have hfirst : Imports companyId [x] db db₁ :=
      imports_singleton_iff.mpr ⟨hrefers x List.mem_cons_self, (List.nodup_append.mp hslugs).1,
        (List.nodup_append.mp hskus).1, products, variants, plans, hproduct, hvariant, hplan, rfl⟩
    obtain ⟨hrows, hrows', -⟩ := rows_of_imports hfirst
    refine ⟨db₁, hfirst, fun y hy => hrefers y (List.mem_cons_of_mem x hy), ?_, ?_, hproducts,
      hvariants, hplans, hdb⟩
    · rw [hrows, List.map_append, map_slug_imported]
      exact hslugs
    · rw [hrows', List.map_append, map_sku_imported, List.flatMap_singleton]
      exact hskus
  · rintro ⟨db₁, hfirst, hrest⟩
    obtain ⟨hrows, hrows', -⟩ := rows_of_imports hfirst
    obtain ⟨hrefers, -, -, products, variants, plans, hproduct, hvariant, hplan, rfl⟩ :=
      imports_singleton_iff.mp hfirst
    refine ⟨fun y hy => ?_, ?_, ?_, ?_, ?_, ?_, hrest.elsewhere⟩
    · rcases List.mem_cons.mp hy with rfl | hy
      · exact hrefers
      · exact hrest.refers y hy
    · have hslugs := hrest.slugs
      rw [hrows, List.map_append, map_slug_imported] at hslugs
      rw [List.map_cons, Table.nodup_append_cons]
      exact hslugs
    · have hskus := hrest.skus
      rw [hrows', List.map_append, map_sku_imported, List.flatMap_singleton] at hskus
      rw [List.flatMap_cons, ← List.append_assoc]
      exact hskus
    · exact Option.bind_eq_some_iff.mpr ⟨products, hproduct, hrest.products⟩
    · rw [List.flatMap_cons, Table.createList_append]
      exact Option.bind_eq_some_iff.mpr ⟨variants, hvariant, hrest.variants⟩
    · rw [List.flatMap_cons, Table.createList_append]
      exact Option.bind_eq_some_iff.mpr ⟨plans, hplan, hrest.plans⟩

theorem imports_nil_iff (hdb : db.Stocked) : Imports companyId [] db db' ↔ db' = db := by
  constructor
  · rintro ⟨-, -, -, hproducts, hvariants, hplans, hsame⟩
    rw [hsame, ← Option.some.inj hproducts, ← Option.some.inj hvariants,
      ← Option.some.inj hplans]
  · rintro rfl
    refine ⟨fun y hy => (by cases hy), ?_, ?_, rfl, rfl, rfl, rfl⟩
    · simpa using hdb.slugs
    · simpa using hdb.skus

/-- The loop is the import of the whole list. -/
theorem importProducts_eq_ok_iff {m : ℕ → ProductMoment} {n : ℕ}
    {products : List BulkCreateProductInput} (hdb : db.Stocked) :
    importProducts companyId m n products db = .ok db' ↔
      Imports companyId (batch m n products) db db' := by
  induction products generalizing n db with
  | nil =>
    rw [importProducts, batch, imports_nil_iff hdb, Except.ok.injEq]
    exact eq_comm
  | cons item rest ih =>
    rw [importProducts, batch, bind_eq_ok, imports_cons_iff]
    refine exists_congr fun db₁ => ?_
    have hpass : importProduct companyId item (m n) db = .ok db₁ ↔
        Imports companyId [(item, m n)] db db₁ := by
      rw [imports_singleton_iff, Table.nodup_append_singleton]
      exact (importProduct_eq_ok_iff (x := (item, m n)) hdb).trans
        (and_congr_right fun _ => by simp only [hdb.slugs, and_true])
    rw [hpass]
    exact and_congr_right fun hfirst => ih (stocked_of_imports hfirst hdb)

theorem duplicates_of_nodup {skus : List String} (h : skus.Nodup) : duplicates skus = [] := by
  rw [duplicates, List.map_eq_nil_iff, List.filter_eq_nil_iff]
  rintro ⟨sku, index⟩ hmem
  obtain ⟨hlt, hsku⟩ := List.mem_zipIdx' hmem
  simp [hsku, h.idxOf_getElem index hlt]

theorem payloadSkus_eq (m : ℕ → ProductMoment) (n : ℕ) (products : List BulkCreateProductInput) :
    (batch m n products).flatMap (fun x => x.1.variants.map BulkCreateVariantInput.sku) =
      payloadSkus products := by
  induction products generalizing n with
  | nil => rfl
  | cons item rest ih =>
    rw [batch, List.flatMap_cons, ih (n + 1)]
    rfl

/-- The checks in front of the transaction pass what it could import. -/
theorem createProductsBulk_eq_ok_iff {m : ℕ → ProductMoment}
    {products : List BulkCreateProductInput} (hdb : db.Stocked) :
    createProductsBulk companyId products m db = .ok db' ↔
      products ≠ [] ∧ products.length ≤ 50 ∧ Imports companyId (batch m 0 products) db db' := by
  rw [createProductsBulk]
  split
  · rename_i hempty
    exact iff_of_false (by simp) fun h => h.1 (List.isEmpty_iff.mp hempty)
  · rename_i hsome
    have hnonempty : products ≠ [] := fun h => hsome (List.isEmpty_iff.mpr h)
    split
    · rename_i hlong
      exact iff_of_false (by simp) fun h => absurd h.2.1 (not_le.mpr hlong)
    · rename_i hshort
      split
      · rename_i hduplicates
        refine iff_of_false (by simp) fun h => ?_
        have hskus := (List.nodup_append.mp h.2.2.skus).2.1
        rw [payloadSkus_eq] at hskus
        simp [duplicates_of_nodup hskus] at hduplicates
      · simp only
        split
        · rename_i hexisting
          refine iff_of_false (by simp) fun h => ?_
          have hclash := (List.nodup_append.mp h.2.2.skus).2.2
          rw [payloadSkus_eq] at hclash
          simp only [Bool.not_eq_true', List.isEmpty_eq_false_iff] at hexisting
          obtain ⟨v, hv⟩ := List.exists_mem_of_ne_nil _ hexisting
          obtain ⟨hv, hsku⟩ := List.mem_filter.mp hv
          exact hclash v.sku (List.mem_map_of_mem hv) v.sku (of_decide_eq_true hsku) rfl
        · rw [importProducts_eq_ok_iff hdb]
          simp [hnonempty, not_lt.mp hshort]

/-- Of the pieces of distinct members one is not empty. -/
theorem flatMap_eq_of_others {α β : Type} {xs : List α} {x : α} {g : α → List β} (hx : x ∈ xs)
    (hnodup : xs.Nodup) (hothers : ∀ y ∈ xs, y ≠ x → g y = []) : xs.flatMap g = g x := by
  obtain ⟨as, bs, rfl⟩ := List.append_of_mem hx
  obtain ⟨-, hbs, has⟩ := List.nodup_append.mp hnodup
  have hfront : as.flatMap g = [] := List.flatMap_eq_nil_iff.mpr fun y hy =>
    hothers y (List.mem_append_left _ hy) (has y hy x List.mem_cons_self)
  have hback : bs.flatMap g = [] := List.flatMap_eq_nil_iff.mpr fun y hy => by
    refine hothers y (List.mem_append_right _ (List.mem_cons_of_mem x hy)) ?_
    rintro rfl
    exact (List.nodup_cons.mp hbs).1 hy
  rw [List.flatMap_append, List.flatMap_cons, hfront, hback, List.nil_append, List.append_nil]

/-- The active variants of an imported product are its own. -/
theorem activeVariants_imported (hdb : db.Stocked) (h : Imports companyId xs db db')
    (hx : x ∈ xs) : activeVariants x.2.productId db' =
      (importedVariants x).filter ProductVariant.isActive := by
  obtain ⟨hproducts, hvariants, -⟩ := rows_of_imports h
  have hids := (Table.createList_eq_some_iff.mp h.products).1
  have hkeys : (xs.map (importedProduct companyId)).map Product.productId =
      xs.map fun y => y.2.productId := by
    rw [List.map_map]
    exact List.map_congr_left fun y _ => importedProduct_productId y
  rw [hkeys] at hids
  obtain ⟨-, hnew, hclash⟩ := List.nodup_append.mp hids
  have hold : ∀ v ∈ db.productVariants.rows, v.productId ≠ x.2.productId := by
    intro v hv
    obtain ⟨p, hp⟩ := Option.isSome_iff_exists.mp (hdb.products v hv)
    exact hclash v.productId (List.mem_map.mpr ⟨p, Table.mem_of_find? hp, Table.find?_key hp⟩)
      x.2.productId (List.mem_map.mpr ⟨x, hx, rfl⟩)
  have hown : (xs.flatMap importedVariants).filter
      (fun v => decide (v.productId = x.2.productId ∧ v.isActive)) =
        (importedVariants x).filter ProductVariant.isActive := by
    rw [List.filter_flatMap, flatMap_eq_of_others hx (List.Nodup.of_map _ hnew)]
    · exact List.filter_congr fun v hv => by simp [productId_newVariants v hv]
    · intro y hy hne
      refine List.filter_eq_nil_iff.mpr fun v hv => ?_
      have hid : y.2.productId ≠ x.2.productId := fun heq =>
        hne (List.inj_on_of_nodup_map hnew hy hx heq)
      simp [productId_newVariants v hv, hid]
  rw [activeVariants, hvariants, List.filter_append, hown, List.filter_eq_nil_iff.mpr,
    List.nil_append]
  exact fun v hv => by simp [hold v hv]

theorem showsVariants_stocked {variants : List ProductVariant}
    (h : variants.filter ProductVariant.isActive ≠ []) (p : Product) :
    ShowsVariants (variants.filter ProductVariant.isActive) (stocked variants p) := by
  have hprices : (variants.filter ProductVariant.isActive).map ProductVariant.price ≠ [] := by
    rwa [ne_eq, List.map_eq_nil_iff]
  obtain ⟨minPrice, hmin⟩ := Option.isSome_iff_exists.mp
    (Option.isSome_iff_ne_none.mpr fun hnone => hprices (List.min?_eq_none_iff.mp hnone))
  obtain ⟨maxPrice, hmax⟩ := Option.isSome_iff_exists.mp
    (Option.isSome_iff_ne_none.mpr fun hnone => hprices (List.max?_eq_none_iff.mp hnone))
  rw [stocked, hmin, hmax]
  exact showsVariants_syncedProduct hmin hmax p

theorem companyId_stocked (variants : List ProductVariant) (p : Product) :
    (stocked variants p).companyId = p.companyId := by
  rw [stocked]
  split <;> rfl

end ProductService
end creation

/-- Two kettles, one with variants and a plan -/
def kettles : List BulkCreateProductInput :=
  [{ name := "Kettle 1.7 l", categoryId := "kitchen", price := 20, stockQuantity := 3 },
    { name := "Kettle XL", categoryId := "kitchen"
      installmentPlans := [{ durationMonths := 6, interestPercentage := 5 }]
      variants := [{ sku := "k1", price := 30, stockQuantity := some 2 },
        { sku := "k2", price := 25, stockQuantity := some 4 },
        { sku := "k3", price := 10, isActive := some false }] }]

def kitchen : Database where
  companies := ⟨[{ companyId := "shop", name := "Corner Shop" }], by decide⟩
  categories := ⟨[⟨"kitchen", "Kitchenware", "kitchenware"⟩], by decide⟩

def kettleMoment (n : ℕ) : ProductMoment where
  productId := if n = 0 then "p" else "q"
  uuid := "0b2c4d6e-1111"
  planId := fun _ => "plan"
  variantId := fun i => if i = 0 then "v" else if i = 1 then "w" else "x"

end InstalFlow
