import InstalFlow.GalleryImages
import InstalFlow.ProductCatalogue

/-!
# Images that variants show

A variant shows images in an order of its own, the first of which is its primary one. Where an
image is named by the number of its row, it is linked without a look at its product; where it is
named by its id, only images of the product of the variant are looked up, and they are linked in
the order in which the database answers.
-/

namespace InstalFlow
open Relational Transition

namespace Database

def variantProduct (variantId : String) (db : Database) : Option String :=
  (db.productVariants.find? variantId).map ProductVariant.productId

def imageProduct (id : ℕ) (db : Database) : Option String :=
  (db.productImages.find? id).map ProductImage.productId

/-- A link joins a variant and an image of one product. -/
def Joins (db : Database) (i : ProductVariantImage) : Prop :=
  (db.imageProduct i.imageId).isSome ∧ db.variantProduct i.variantId = db.imageProduct i.imageId

instance (db : Database) (i : ProductVariantImage) : Decidable (db.Joins i) :=
  inferInstanceAs (Decidable (_ ∧ _))

/-- A variant shows images of its own product only. -/
def OwnImages (db : Database) : Prop := ∀ i ∈ db.productVariantImages.rows, db.Joins i

instance (db : Database) : Decidable db.OwnImages :=
  inferInstanceAs (Decidable (∀ i ∈ db.productVariantImages.rows, db.Joins i))

/-- The unique `imageId` of the schema -/
def ImageIdsUnique (db : Database) : Prop := (db.productImages.rows.map ProductImage.imageId).Nodup

instance (db : Database) : Decidable db.ImageIdsUnique := inferInstanceAs (Decidable (List.Nodup _))

/-- The images of a variant by their ids, in their order, and whether each is its primary one -/
def variantImages (variantId : String) (db : Database) : List (Option String × Bool) :=
  ((db.productVariantImages.rows.filter fun i => i.variantId = variantId).insertionSort
      fun i j => i.sortOrder ≤ j.sortOrder).map fun i =>
    ((db.productImages.find? i.imageId).map ProductImage.imageId, i.isPrimary)

end Database

namespace ProductImageService

def resolveProductId (productId : String) (db : Database) : Except AppError Product :=
  match db.products.find? productId with
  | none => .error (.notFound "Product not found")
  | some product => .ok product

def createImage (row : ProductImage) (db : Database) : Except AppError Database :=
  if db.productImages.rows.any fun i => i.imageId = row.imageId then
    .error (.uniqueViolation ["imageId"])
  else if row.isPrimary ∧ db.productImages.rows.any fun i => i.onePrimary = row.onePrimary then
    .error (.uniqueViolation ["productId"])
  else
    match createRow db.productImages row ["id"] with
    | .error err => .error err
    | .ok productImages => .ok { db with productImages }

def createImages : List ProductImage → Database → Except AppError Database
  | [], db => .ok db
  | row :: rows, db => do
    let db ← createImage row db
    createImages rows db

def galleryOf (productId : String) (db : Database) : List ProductImage :=
  db.productImages.rows.filter fun i => i.productId = productId

def uploadGalleryImages (productId : String) (uploaded : Except String (List GalleryAsset))
    (db : Database) : Except AppError Database :=
  if !(GalleryCall.uploadGalleryImages productId uploaded).hasFiles then
    .error (.badRequest "No image files provided")
  else do
    let _ ← resolveProductId productId db
    match uploaded with
    | .error message => .error (.error message)
    | .ok uploadedAssets =>
      let sortOffset := (((galleryOf productId db).map ProductImage.sortOrder).max?.getD (-1)) + 1
      let hasPrimary := (galleryOf productId db).countP ProductImage.isPrimary
      createImages (galleryRows productId sortOffset hasPrimary uploadedAssets) db

/-- The links of an image go in front of it. -/
def deleteImage (image : ProductImage) (db : Database) : Database :=
  { db with
    productVariantImages := db.productVariantImages.deleteMany fun i => i.imageId = image.id
    productImages := db.productImages.deleteMany fun i => i.imageId = image.imageId }

def promoteNext (productId : String) (rank : String → ℕ) (db : Database) : Database :=
  match firstImage rank ((galleryOf productId db).map fun i => (i.imageId, i)) with
  | none => db
  | some next =>
    { db with
      productImages := db.productImages.updateMany (fun i => i.imageId = next.1)
        (ProductImage.withPrimary true) }

def removeGalleryImage (productId imageId : String) (rank : String → ℕ) (db : Database) :
    Except AppError Database := do
  let _ ← resolveProductId productId db
  match db.productImages.rows.find? fun i => i.imageId = imageId ∧ i.productId = productId with
  | none => .error (.notFound "Image not found for this product")
  | some image =>
    if image.isPrimary then .ok (promoteNext productId rank (deleteImage image db))
    else .ok (deleteImage image db)

/-- `findMany` without an order: the database answers in the order `rank`. -/
def findImages (productId : String) (imageIds : List String) (rank : String → ℕ) (db : Database) :
    List ProductImage :=
  (db.productImages.rows.filter fun i => i.imageId ∈ imageIds ∧ i.productId = productId).insertionSort
    fun i j => rank i.imageId ≤ rank j.imageId

/-- The ids that are not found are picked out by the numbers of the rows. -/
def findValidImages (productId : String) (imageIds : List String) (rank : String → ℕ)
    (db : Database) : Except AppError (List ProductImage) :=
  if imageIds.isEmpty then .ok []
  else do
    let _ ← resolveProductId productId db
    let validImages := findImages productId imageIds rank db
    if validImages.length ≠ imageIds.length then
      let validSet := validImages.map fun i => toString i.id
      let foreignIds := imageIds.filter fun id => id ∉ validSet
      .error (.badRequest
        ("These image IDs do not belong to this product: " ++ ", ".intercalate foreignIds))
    else .ok validImages

def setVariantImages (variantId : String) (imageIds : List String) (rank : String → ℕ)
    (db : Database) : Except AppError Database :=
  match db.productVariants.find? variantId with
  | none => .error (.notFound "Variant not found")
  | some variant => do
    let validImages ← findValidImages variant.productId imageIds rank db
    VariantService.attachImages variantId (validImages.map ProductImage.id)
      (VariantService.clearImages variantId db)

end ProductImageService

/-- A call on variants or galleries, with the keys that its rows get and the order in which the
database answers -/
inductive VariantImageStep
  | addVariant (data : CreateVariantInput) (caller : CatalogueCaller) (variantId : String)
  | updateVariant (variantId : String) (data : UpdateVariantInput) (caller : CatalogueCaller)
  | bulkCreateVariants (productId : String) (variants : List BulkCreateVariantInput)
      (caller : CatalogueCaller) (variantId : ℕ → String)
  | setVariantImages (variantId : String) (imageIds : List String) (rank : String → ℕ)
  | uploadGalleryImages (productId : String) (uploaded : Except String (List GalleryAsset))
  | removeGalleryImage (productId imageId : String) (rank : String → ℕ)

namespace VariantImageStep

def result (db : Database) : VariantImageStep → Except AppError Database
  | addVariant data caller variantId => VariantService.addVariant data caller variantId db
  | updateVariant variantId data caller => VariantService.updateVariant variantId data caller db
  | bulkCreateVariants productId variants caller variantId =>
      VariantService.bulkCreateVariants productId variants caller variantId db
  | setVariantImages variantId imageIds rank =>
      ProductImageService.setVariantImages variantId imageIds rank db
  | uploadGalleryImages productId uploaded =>
      ProductImageService.uploadGalleryImages productId uploaded db
  | removeGalleryImage productId imageId rank =>
      ProductImageService.removeGalleryImage productId imageId rank db

def apply (db : Database) (e : VariantImageStep) : Database := committed db id (e.result db)

/-- The numbers of the images that an operation links, and the product of the variants that are
to show them -/
def links (db : Database) : VariantImageStep → List ℕ × Option String
  | addVariant data _ _ => (data.imageIds, some data.productId)
  | updateVariant variantId data _ => (data.imageIds.getD [], db.variantProduct variantId)
  | bulkCreateVariants productId variants _ _ =>
      (variants.flatMap BulkCreateVariantInput.imageIds, some productId)
  | _ => ([], none)

/-- No number is that of an image of another product. -/
def NamesOwn (db : Database) (e : VariantImageStep) : Prop :=
  ∀ id ∈ (e.links db).1, (db.imageProduct id).isSome → (e.links db).2 = db.imageProduct id

/-- The images of a list are looked up in the order of the list. -/
def FindsInOrder : VariantImageStep → Prop
  | setVariantImages _ imageIds rank => imageIds.Pairwise fun i j => rank i < rank j
  | _ => True

/-- The images that a variant gets by a list are those of the list, in its order, with the first
one as the primary one. -/
def ShowsList (db : Database) : VariantImageStep → Prop
  | e@(setVariantImages variantId imageIds _) => (e.result db).isOk →
      (e.apply db).variantImages variantId =
        imageIds.zipIdx.map fun (imageId, idx) => (some imageId, decide (idx = 0))
  | _ => True

instance (db : Database) (e : VariantImageStep) : Decidable (e.NamesOwn db) :=
  inferInstanceAs (Decidable (∀ id ∈ _, _ → _))

instance : ∀ e : VariantImageStep, Decidable e.FindsInOrder
  | setVariantImages _ _ _ => inferInstanceAs (Decidable (List.Pairwise _ _))
  | addVariant _ _ _ | updateVariant _ _ _ | bulkCreateVariants _ _ _ _
  | uploadGalleryImages _ _ | removeGalleryImage _ _ _ => inferInstanceAs (Decidable True)

instance (db : Database) : ∀ e : VariantImageStep, Decidable (e.ShowsList db)
  | setVariantImages _ _ _ => inferInstanceAs (Decidable (_ → _))
  | addVariant _ _ _ | updateVariant _ _ _ | bulkCreateVariants _ _ _ _
  | uploadGalleryImages _ _ | removeGalleryImage _ _ _ => inferInstanceAs (Decidable True)

end VariantImageStep

namespace Database
variable {db db' : Database}

/-- Links stay good where their variants and images stay. -/
theorem OwnImages.mono (h : db.OwnImages)
    (hlinks : ∀ i ∈ db'.productVariantImages.rows, i ∈ db.productVariantImages.rows)
    (hvariants : ∀ k p, db.variantProduct k = some p → db'.variantProduct k = some p)
    (himages : ∀ i ∈ db'.productVariantImages.rows,
      db'.imageProduct i.imageId = db.imageProduct i.imageId) : db'.OwnImages := by
  intro i hi
  obtain ⟨hstored, hsame⟩ := h i (hlinks i hi)
  obtain ⟨p, hp⟩ := Option.isSome_iff_exists.mp hstored
  rw [Joins, himages i hi]
  exact ⟨hstored, (hvariants _ p (hsame.trans hp)).trans hp.symm⟩

theorem OwnImages.withVariants {productVariants : Table ProductVariant.variantId} (h : db.OwnImages)
    (hvariants : ∀ k p, db.variantProduct k = some p →
      variantProduct k { db with productVariants } = some p) :
    OwnImages { db with productVariants } :=
  h.mono (fun _ hi => hi) hvariants fun _ _ => rfl

end Database

namespace VariantService
variable {productId variantId : String} {imageIds : List ℕ} {db db' : Database}

def newLink (variantId : String) (link : ℕ × ℕ) : ProductVariantImage where
  variantId := variantId
  imageId := link.1
  isPrimary := link.2 = 0
  sortOrder := link.2

theorem attachImages_eq_ok (h : attachImages variantId imageIds db = .ok db') :
    (∀ id ∈ imageIds, (db.imageProduct id).isSome) ∧
      db' = { db with
        productVariantImages :=
          Table.createAll (imageIds.zipIdx.map (newLink variantId)) db.productVariantImages } := by
  rw [attachImages] at h
  split at h
  · rename_i hstored
    cases h
    refine ⟨fun id hid => ?_, ?_⟩
    · rw [Database.imageProduct, Option.isSome_map]
      exact List.all_eq_true.mp hstored id hid
    · rw [Table.createAll, List.foldl_map]
      rfl
  · cases h

theorem ownImages_attachImages (hown : db.OwnImages)
    (hnames : ∀ id ∈ imageIds, (db.imageProduct id).isSome →
      db.variantProduct variantId = db.imageProduct id)
    (h : attachImages variantId imageIds db = .ok db') : db'.OwnImages := by
  obtain ⟨hstored, rfl⟩ := attachImages_eq_ok h
  intro i hi
  rcases Table.mem_createAll hi with hi | hi
  · exact hown i hi
  · obtain ⟨link, hlink, rfl⟩ := List.mem_map.mp hi
    have hid : link.1 ∈ imageIds := List.fst_mem_of_mem_zipIdx hlink
    exact ⟨hstored _ hid, hnames _ hid (hstored _ hid)⟩

theorem ownImages_clearImages (hown : db.OwnImages) : (clearImages variantId db).OwnImages :=
  hown.mono (fun _ hi => (Table.mem_deleteMany.mp hi).1) (fun _ _ hp => hp) fun _ _ => rfl

theorem syncStats_keeps (hunique : db.ImageIdsUnique) (hown : db.OwnImages) :
    (ProductService.syncStats productId db).ImageIdsUnique ∧
      (ProductService.syncStats productId db).OwnImages := by
  obtain ⟨products, hsync⟩ := ProductService.syncStats_frame productId db
  rw [hsync]
  exact ⟨hunique, hown⟩

/-- A new variant stands beside the others. -/
theorem createVariant_adds {row : ProductVariant} (h : createVariant row db = .ok db') :
    (∃ productVariants, db' = { db with productVariants }) ∧
      (∀ k p, db.variantProduct k = some p → db'.variantProduct k = some p) ∧
      db'.variantProduct row.variantId = some row.productId := by
  rw [createVariant] at h
  split at h
  · cases h
  · split at h
    · cases h
    · rename_i variants hcreate
      cases h
      have hcreate := createRow_eq_ok.mp hcreate
      refine ⟨⟨_, rfl⟩, fun k p hp => ?_, ?_⟩
      · obtain ⟨v, hv, rfl⟩ := Option.map_eq_some_iff.mp hp
        exact Option.map_eq_some_iff.mpr ⟨v, Table.find?_of_create hcreate hv, rfl⟩
      · exact congrArg (Option.map ProductVariant.productId)
          ((Table.find?_create hcreate row.variantId).trans (if_pos rfl))

theorem createVariants_adds {ids : ℕ → String} {n : ℕ} {variants : List BulkCreateVariantInput}
    (h : createVariants productId ids n variants db = .ok db') :
    (∃ productVariants, db' = { db with productVariants }) ∧
      (∀ k p, db.variantProduct k = some p → db'.variantProduct k = some p) ∧
      ∀ m < variants.length, db'.variantProduct (ids (n + m)) = some productId := by
  induction variants generalizing n db with
  | nil =>
    cases h
    exact ⟨⟨_, rfl⟩, fun _ _ hp => hp, fun m hm => absurd hm (Nat.not_lt_zero m)⟩
  | cons data rest ih =>
    obtain ⟨db₁, hcreate, h⟩ := bind_eq_ok.mp h
    obtain ⟨⟨variants₁, rfl⟩, hkept, hnew⟩ := createVariant_adds hcreate
    obtain ⟨⟨variants', rfl⟩, hkept', hnew'⟩ := ih h
    refine ⟨⟨_, rfl⟩, fun k p hp => hkept' k p (hkept k p hp), fun m hm => ?_⟩
    cases m with
    | zero => exact hkept' _ _ hnew
    | succ m =>
      have hlater := hnew' m (Nat.lt_of_succ_lt_succ hm)
      rwa [Nat.add_right_comm] at hlater

theorem ownImages_attachAllImages {ids : ℕ → String} {n : ℕ} {variants : List BulkCreateVariantInput}
    (hown : db.OwnImages)
    (hvariants : ∀ m < variants.length, db.variantProduct (ids (n + m)) = some productId)
    (hnames : ∀ data ∈ variants, ∀ id ∈ data.imageIds, (db.imageProduct id).isSome →
      some productId = db.imageProduct id)
    (h : attachAllImages ids n variants db = .ok db') :
    (∃ productVariantImages, db' = { db with productVariantImages }) ∧ db'.OwnImages := by
  induction variants generalizing n db with
  | nil =>
    cases h
    exact ⟨⟨_, rfl⟩, hown⟩
  | cons data rest ih =>
    obtain ⟨db₁, hattach, h⟩ := bind_eq_ok.mp h
    have hfirst : db.variantProduct (ids n) = some productId := hvariants 0 (Nat.succ_pos _)
    have hown₁ := ownImages_attachImages hown (fun id hid hstored =>
      hfirst.trans (hnames data List.mem_cons_self id hid hstored)) hattach
    obtain ⟨-, rfl⟩ := attachImages_eq_ok hattach
    obtain ⟨⟨images, rfl⟩, hown'⟩ := ih hown₁ (fun m hm => by
        rw [Nat.add_assoc, Nat.add_comm 1 m]
        exact hvariants (m + 1) (Nat.succ_lt_succ hm))
      (fun data' hdata => hnames data' (List.mem_cons_of_mem data hdata)) h
    exact ⟨⟨images, rfl⟩, hown'⟩

/-- Linked anew, the images of a variant stand in the order in which they are linked. -/
theorem links_attachImages (hnodup : imageIds.Nodup)
    (h : attachImages variantId imageIds (clearImages variantId db) = .ok db') :
    (db'.productVariantImages.rows.filter fun i => i.variantId = variantId).insertionSort
        (fun i j => i.sortOrder ≤ j.sortOrder) = imageIds.zipIdx.map (newLink variantId) ∧
      db'.productImages = db.productImages := by
  obtain ⟨-, rfl⟩ := attachImages_eq_ok h
  refine ⟨?_, rfl⟩
  have hcleared : ∀ i ∈ (clearImages variantId db).productVariantImages.rows,
      i.variantId ≠ variantId :=
    fun i hi => of_decide_eq_false (Table.mem_deleteMany.mp hi).2
  have hnew : ∀ i ∈ imageIds.zipIdx.map (newLink variantId), i.variantId = variantId := by
    intro i hi
    obtain ⟨link, -, rfl⟩ := List.mem_map.mp hi
    rfl
  have hkeys : (imageIds.zipIdx.map (newLink variantId)).map ProductVariantImage.key =
      imageIds.map (Prod.mk variantId) := by
    rw [List.map_map]
    exact (List.map_map (f := Prod.fst) (g := Prod.mk variantId)).symm.trans
      (congrArg _ (List.zipIdx_map_fst 0 imageIds))
  have hrows := Table.rows_createAll (t := (clearImages variantId db).productVariantImages)
    (fun i hi => Table.find?_eq_none_iff.mpr fun j hj he =>
      hcleared j hj ((congrArg Prod.fst he).trans (hnew i hi)))
    (hkeys ▸ hnodup.map (Prod.mk_right_injective variantId))
  have hsorted : (imageIds.zipIdx.map (newLink variantId)).Pairwise
      fun i j => i.sortOrder ≤ j.sortOrder := by
    have hindices : (imageIds.zipIdx.map Prod.snd).Pairwise (· ≤ ·) := by
      rw [List.zipIdx_map_snd]
      exact List.pairwise_le_range'
    exact List.pairwise_map.mpr (List.pairwise_map.mp hindices)
  rw [hrows, List.filter_append,
    List.filter_eq_nil_iff.mpr fun i hi hid => hcleared i hi (of_decide_eq_true hid),
    List.filter_eq_self.mpr fun i hi => decide_eq_true (hnew i hi), List.nil_append,
    hsorted.insertionSort_eq]

theorem variantProduct_writeVariant (data : UpdateVariantInput) (k : String) :
    (writeVariant variantId data db).variantProduct k = db.variantProduct k :=
  Table.find?_update_map db.productVariants variantId k (updatedVariant_variantId data) fun _ => rfl

end VariantService

namespace ProductImageService
variable {productId variantId : String} {imageIds : List String} {rank : String → ℕ}
  {db db' : Database}

theorem mem_findImages {i : ProductImage} : i ∈ findImages productId imageIds rank db ↔
    i ∈ db.productImages.rows ∧ i.imageId ∈ imageIds ∧ i.productId = productId := by
  rw [findImages, List.mem_insertionSort, List.mem_filter, decide_eq_true_eq]

theorem mem_of_findValidImages {images : List ProductImage}
    (h : findValidImages productId imageIds rank db = .ok images) :
    ∀ i ∈ images, i ∈ db.productImages.rows ∧ i.productId = productId := by
  intro i hi
  rw [findValidImages] at h
  split at h
  · cases h
    cases hi
  · obtain ⟨product, -, h⟩ := bind_eq_ok.mp h
    dsimp only at h
    split at h
    · cases h
    · cases h
      obtain ⟨hmem, -, hproduct⟩ := mem_findImages.mp hi
      exact ⟨hmem, hproduct⟩

theorem createImage_eq_ok {row : ProductImage} (h : createImage row db = .ok db') :
    ∃ productImages, db.productImages.create row = some productImages ∧
      db' = { db with productImages } ∧ ∀ i ∈ db.productImages.rows, i.imageId ≠ row.imageId := by
  rw [createImage] at h
  split at h
  · cases h
  · rename_i hfree
    split at h
    · cases h
    · split at h
      · cases h
      · rename_i images hcreate
        cases h
        refine ⟨images, createRow_eq_ok.mp hcreate, rfl, fun i hi he => hfree ?_⟩
        exact List.any_eq_true.mpr ⟨i, hi, decide_eq_true he⟩

theorem createImages_keeps {rows : List ProductImage} (hunique : db.ImageIdsUnique)
    (hown : db.OwnImages) (h : createImages rows db = .ok db') :
    db'.ImageIdsUnique ∧ db'.OwnImages := by
  induction rows generalizing db with
  | nil =>
    cases h
    exact ⟨hunique, hown⟩
  | cons row rows ih =>
    obtain ⟨db₁, hcreate, h⟩ := bind_eq_ok.mp h
    obtain ⟨images, hrow, rfl, hfree⟩ := createImage_eq_ok hcreate
    obtain ⟨-, hrows⟩ := Table.create_eq_some hrow
    refine ih ?_ ?_ h
    · rw [Database.ImageIdsUnique, hrows, List.map_append, List.map_singleton]
      refine List.nodup_append.mpr ⟨hunique, List.nodup_singleton _, fun a ha b hb => ?_⟩
      obtain ⟨i, hi, rfl⟩ := List.mem_map.mp ha
      rw [List.mem_singleton] at hb
      subst hb
      exact hfree i hi
    · refine hown.mono (fun _ hi => hi) (fun _ _ hp => hp) fun i hi => ?_
      obtain ⟨image, himage, -⟩ := Option.map_eq_some_iff.mp
        (Option.isSome_iff_exists.mp (hown i hi).1).choose_spec
      rw [Database.imageProduct, Database.imageProduct, himage]
      exact congrArg _ (Table.find?_of_create hrow himage)

theorem deleteImage_keeps {image : ProductImage} (himage : image ∈ db.productImages.rows)
    (hunique : db.ImageIdsUnique) (hown : db.OwnImages) :
    (deleteImage image db).ImageIdsUnique ∧ (deleteImage image db).OwnImages := by
  refine ⟨hunique.sublist (List.filter_sublist.map _), ?_⟩
  refine hown.mono (fun _ hi => (Table.mem_deleteMany.mp hi).1) (fun _ _ hp => hp) fun i hi => ?_
  obtain ⟨hlink, hother⟩ := Table.mem_deleteMany.mp hi
  rw [Database.imageProduct, Database.imageProduct, deleteImage, Table.find?_deleteMany]
  cases hfind : db.productImages.find? i.imageId with
  | none => rfl
  | some r =>
    have hne : r.imageId ≠ image.imageId := by
      intro he
      obtain rfl : r = image := List.inj_on_of_nodup_map hunique (Table.mem_of_find? hfind) himage he
      exact of_decide_eq_false hother (Table.find?_key hfind).symm
    rw [Option.filter_some, decide_eq_false hne]
    rfl

theorem promoteNext_keeps (hunique : db.ImageIdsUnique) (hown : db.OwnImages) :
    (promoteNext productId rank db).ImageIdsUnique ∧ (promoteNext productId rank db).OwnImages := by
  rw [promoteNext]
  split
  · exact ⟨hunique, hown⟩
  · rename_i next hnext
    have hids := Table.map_rows_updateMany (f := ProductImage.withPrimary true)
      (g := ProductImage.imageId) db.productImages (fun i => i.imageId = next.1) (fun _ => rfl)
      fun _ => rfl
    refine ⟨Eq.subst (motive := List.Nodup) hids.symm hunique,
      hown.mono (fun _ hi => hi) (fun _ _ hp => hp) fun i hi => ?_⟩
    exact Table.find?_updateMany_map (f := ProductImage.withPrimary true)
      (g := ProductImage.productId) db.productImages _ _ (fun _ => rfl) fun _ => rfl

end ProductImageService

namespace VariantImageStep
variable {db db' : Database} {e : VariantImageStep}

/-- An operation that goes through and names images of the product only keeps the links good. -/
theorem keeps (hunique : db.ImageIdsUnique) (hown : db.OwnImages) (hnames : e.NamesOwn db)
    (h : e.result db = .ok db') : db'.ImageIdsUnique ∧ db'.OwnImages := by
  cases e with
  | addVariant data caller variantId =>
    rw [result, VariantService.addVariant] at h
    split at h
    · cases h
    · obtain ⟨u, -, h⟩ := bind_eq_ok.mp h
      split at h
      · cases h
      · obtain ⟨db₁, hcreate, h⟩ := bind_eq_ok.mp h
        obtain ⟨db₂, hattach, h⟩ := bind_eq_ok.mp h
        cases h
        obtain ⟨⟨variants, rfl⟩, hkept, hnew⟩ := VariantService.createVariant_adds hcreate
        have hown₁ := hown.withVariants hkept
        have hown₂ := VariantService.ownImages_attachImages hown₁
          (fun id hid hstored => hnew.trans (hnames id hid hstored)) hattach
        obtain ⟨-, rfl⟩ := VariantService.attachImages_eq_ok hattach
        exact VariantService.syncStats_keeps hunique hown₂
  | updateVariant variantId data caller =>
    obtain ⟨v, -, h⟩ := bind_eq_ok.mp h
    split at h
    · cases h
    · obtain ⟨db₁, hreplace, h⟩ := bind_eq_ok.mp h
      cases h
      have hwritten : (VariantService.writeVariant variantId data db).OwnImages :=
        hown.withVariants fun k p hp =>
          (VariantService.variantProduct_writeVariant data k).trans hp
      cases hids : data.imageIds with
      | none =>
        rw [hids] at hreplace
        cases hreplace
        exact VariantService.syncStats_keeps hunique hwritten
      | some imageIds =>
        rw [hids] at hreplace
        have hown₁ := VariantService.ownImages_attachImages
          (VariantService.ownImages_clearImages hwritten) (fun id hid hstored =>
            (VariantService.variantProduct_writeVariant data variantId).trans
              (hnames id (by rw [links, hids]; exact hid) hstored)) hreplace
        obtain ⟨-, rfl⟩ := VariantService.attachImages_eq_ok hreplace
        exact VariantService.syncStats_keeps hunique hown₁
  | bulkCreateVariants productId variants caller variantId =>
    rw [result, VariantService.bulkCreateVariants] at h
    split at h
    · cases h
    · obtain ⟨u, -, h⟩ := bind_eq_ok.mp h
      dsimp only at h
      split at h
      · cases h
      · obtain ⟨db₁, hcreate, h⟩ := bind_eq_ok.mp h
        obtain ⟨db₂, hattach, h⟩ := bind_eq_ok.mp h
        cases h
        obtain ⟨⟨variants₁, rfl⟩, hkept, hnew⟩ := VariantService.createVariants_adds hcreate
        have hown₁ := hown.withVariants hkept
        obtain ⟨⟨images, rfl⟩, hown₂⟩ := VariantService.ownImages_attachAllImages hown₁ hnew
          (fun data hdata id hid =>
            hnames id (List.mem_flatMap.mpr ⟨data, hdata, hid⟩)) hattach
        exact VariantService.syncStats_keeps hunique hown₂
  | setVariantImages variantId imageIds rank =>
    rw [result, ProductImageService.setVariantImages] at h
    split at h
    · cases h
    · rename_i variant hvariant
      obtain ⟨images, hvalid, h⟩ := bind_eq_ok.mp h
      have hproduct : db.variantProduct variantId = some variant.productId :=
        congrArg (Option.map ProductVariant.productId) hvariant
      have hown₁ := VariantService.ownImages_attachImages
        (VariantService.ownImages_clearImages hown) (fun id hid _ => ?_) h
      · obtain ⟨-, rfl⟩ := VariantService.attachImages_eq_ok h
        exact ⟨hunique, hown₁⟩
      · obtain ⟨image, himage, rfl⟩ := List.mem_map.mp hid
        obtain ⟨hmem, hsame⟩ := ProductImageService.mem_of_findValidImages hvalid image himage
        rw [← hsame] at hproduct
        exact hproduct.trans
          (congrArg (Option.map ProductImage.productId) (Table.find?_of_mem hmem)).symm
  | uploadGalleryImages productId uploaded =>
    rw [result, ProductImageService.uploadGalleryImages.eq_def] at h
    split at h
    · cases h
    · obtain ⟨product, -, h⟩ := bind_eq_ok.mp h
      split at h
      · cases h
      · exact ProductImageService.createImages_keeps hunique hown h
  | removeGalleryImage productId imageId rank =>
    rw [result, ProductImageService.removeGalleryImage] at h
    obtain ⟨product, -, h⟩ := bind_eq_ok.mp h
    split at h
    · cases h
    · rename_i image hfind
      obtain ⟨hunique₁, hown₁⟩ :=
        ProductImageService.deleteImage_keeps (List.mem_of_find?_eq_some hfind) hunique hown
      split at h
      · cases h
        exact ProductImageService.promoteNext_keeps hunique₁ hown₁
      · cases h
        exact ⟨hunique₁, hown₁⟩

end VariantImageStep

namespace ProductImageService
variable {productId variantId : String} {imageIds : List String} {rank : String → ℕ}
  {db db' : Database}

/-- As many images as ids: each id is one of them, and in order they follow the list. -/
theorem map_imageId_of_findValidImages {images : List ProductImage} (hunique : db.ImageIdsUnique)
    (horder : imageIds.Pairwise fun i j => rank i < rank j)
    (h : findValidImages productId imageIds rank db = .ok images) :
    images.map ProductImage.imageId = imageIds ∧ images.Nodup := by
  rw [findValidImages] at h
  split at h
  · rename_i hempty
    cases h
    exact ⟨(List.isEmpty_iff.mp hempty).symm, List.nodup_nil⟩
  · obtain ⟨product, -, h⟩ := bind_eq_ok.mp h
    dsimp only at h
    split at h
    · cases h
    · rename_i hlength
      cases h
      have hperm := List.perm_insertionSort (fun i j => rank i.imageId ≤ rank j.imageId)
        (db.productImages.rows.filter fun i => i.imageId ∈ imageIds ∧ i.productId = productId)
      have hnodup : ((findImages productId imageIds rank db).map ProductImage.imageId).Nodup :=
        (hperm.map _).nodup_iff.mpr (hunique.sublist (List.filter_sublist.map _))
      refine ⟨?_, hnodup.of_map _⟩
      have hsub : (findImages productId imageIds rank db).map ProductImage.imageId ⊆ imageIds := by
        intro id hid
        obtain ⟨i, hi, rfl⟩ := List.mem_map.mp hid
        exact (mem_findImages.mp hi).2.1
      have hsame := (List.subperm_of_subset hnodup hsub).perm_of_length_le (by
        rw [List.length_map, not_not.mp hlength])
      -- both lists are sorted by the rank, which tells the ids of the list apart
      have hsorted : ((findImages productId imageIds rank db).map ProductImage.imageId).Pairwise
          fun i j => rank i ≤ rank j :=
        List.pairwise_map.mpr (List.pairwise_insertionSort _ _)
      have hranks : (imageIds.map rank).Nodup :=
        (List.pairwise_map.mpr horder).imp fun h => h.ne
      exact hsame.eq_of_pairwise (fun i j hi hj hij hji =>
          List.inj_on_of_nodup_map hranks (hsub hi) hj (Nat.le_antisymm hij hji))
        hsorted (horder.imp fun h => h.le)

/-- Linked anew, a variant shows the images in the order in which they are linked. -/
theorem variantImages_attachImages {images : List ProductImage}
    (hstored : ∀ i ∈ images, i ∈ db.productImages.rows) (hnodup : images.Nodup)
    (h : VariantService.attachImages variantId (images.map ProductImage.id)
      (VariantService.clearImages variantId db) = .ok db') :
    db'.variantImages variantId = (images.map ProductImage.imageId).zipIdx.map
      fun (imageId, idx) => (some imageId, decide (idx = 0)) := by
  have hids : (images.map ProductImage.id).Nodup :=
    (List.nodup_map_iff_inj_on hnodup).mpr fun i hi j hj he =>
      Table.key_injective (hstored i hi) (hstored j hj) he
  obtain ⟨hlinks, himages⟩ := VariantService.links_attachImages hids h
  rw [Database.variantImages, hlinks, himages, List.zipIdx_map, List.zipIdx_map, List.map_map,
    List.map_map, List.map_map]
  refine List.map_congr_left fun link hlink => ?_
  have hfind := Table.find?_of_mem (hstored _ (List.fst_mem_of_mem_zipIdx hlink))
  exact Prod.ext (congrArg (Option.map ProductImage.imageId) hfind) rfl

end ProductImageService

namespace VariantImageStep
variable {db : Database}

theorem showsList (hunique : db.ImageIdsUnique) {e : VariantImageStep} (horder : e.FindsInOrder) :
    e.ShowsList db := by
  cases e with
  | setVariantImages variantId imageIds rank =>
    intro hok
    obtain ⟨db', h⟩ := isOk_iff.mp hok
    have happly : (setVariantImages variantId imageIds rank).apply db = db' := by
      rw [apply, h]
      rfl
    rw [happly]
    rw [result, ProductImageService.setVariantImages] at h
    split at h
    · cases h
    · obtain ⟨images, hvalid, h⟩ := bind_eq_ok.mp h
      obtain ⟨hids, hnodup⟩ :=
        ProductImageService.map_imageId_of_findValidImages hunique horder hvalid
      have hstored := fun i hi => (ProductImageService.mem_of_findValidImages hvalid i hi).1
      rw [ProductImageService.variantImages_attachImages hstored hnodup h, hids]
  | _ => trivial

theorem apply_keeps (hunique : db.ImageIdsUnique) (hown : db.OwnImages) (e : VariantImageStep)
    (hnames : e.NamesOwn db) : (e.apply db).ImageIdsUnique ∧ (e.apply db).OwnImages :=
  committed_rule (P := fun db => db.ImageIdsUnique ∧ db.OwnImages) ⟨hunique, hown⟩
    fun _ h => keeps hunique hown hnames h

/-- Where no operation names an image of another product, and lists are looked up in their
order, variants show images of their own products only, and those of a list as the list has
them. -/
theorem throughout_ownImages {db : Database} (hunique : db.ImageIdsUnique) (hown : db.OwnImages)
    {es : List VariantImageStep}
    (h : Along apply (fun db e => e.NamesOwn db ∧ e.FindsInOrder) db es) :
    Throughout apply Database.OwnImages db es ∧ Along apply (fun db e => e.ShowsList db) db es := by
  have hinvariant : Throughout apply (fun db => db.ImageIdsUnique ∧ db.OwnImages) db es :=
    h.throughout (fun db e hdb hstep => apply_keeps hdb.1 hdb.2 e hstep.1) ⟨hunique, hown⟩
  refine ⟨hinvariant.imp fun db hdb => hdb.2, ?_⟩
  refine (along_and.mpr ⟨hinvariant.along, h⟩).imp fun db e hstep => ?_
  exact showsList hstep.1.1 hstep.2.2

/-- A phone of one shop and a sofa of another one, with their images -/
def twoGalleries : Database where
  products := ⟨[{ productId := "phone", companyId := some "mobiles" },
    { productId := "sofa", companyId := some "furniture" }], by decide⟩
  productVariants := ⟨[{ variantId := "black", productId := "phone", sku := "PH-1" }], by decide⟩
  productImages := ⟨[{ id := 1, imageId := "front", productId := "phone", isPrimary := true },
    { id := 2, imageId := "back", productId := "phone", sortOrder := 1 },
    { id := 3, imageId := "cushion", productId := "sofa", isPrimary := true }], by decide⟩

theorem throughout_ownImages_twoGalleries :
    let es := [addVariant { productId := "phone", sku := "PH-2", price := 1, imageIds := [2, 1] }
        { companyId := some "mobiles" } "white",
      setVariantImages "black" ["back", "front"] fun id => if id = "back" then 0 else 1]
    Throughout apply Database.OwnImages twoGalleries es ∧
      Along apply (fun db e => e.ShowsList db) twoGalleries es :=
  throughout_ownImages (by decide) (by decide) (by decide)

/-- A shop adds a variant with the image of another shop, and a list of images is shown in the
order in which the database finds them. -/
theorem shows_foreign_image_and_other_order : twoGalleries.ImageIdsUnique ∧
    twoGalleries.OwnImages ∧
    ¬ Throughout apply Database.OwnImages twoGalleries
      [addVariant { productId := "phone", sku := "PH-2", price := 1, imageIds := [3] }
        { companyId := some "mobiles" } "white"] ∧
    ¬ Along apply (fun db e => e.ShowsList db) twoGalleries
      [setVariantImages "black" ["back", "front"] fun id => if id = "front" then 0 else 1] := by
  decide

end VariantImageStep

end InstalFlow
