import InstalFlow.PaymentEffects
import InstalFlow.Relational.Heap
import InstalFlow.Transition.Run
import Mathlib.Data.Fintype.Option

/-!
# Galleries of products

Images are uploaded, removed, ordered and edited, and one of a gallery is made the primary one,
by transactions under READ COMMITTED and a partial unique index of one primary image for each
product. An upload holds a lock on the product that no other operation takes, and a removal
decides by the flag that it has read in front of its transaction. The rows by which variants
show an image are deleted with it.
-/

namespace InstalFlow
open Relational Transition

/-- A file on Cloudinary, with the key that its row gets -/
structure GalleryAsset where
  id : ℕ
  imageId : String
  url : String
  publicId : String
  altText : Option String := none

structure UpdateImageMeta where
  altText : Option String := none
  sortOrder : Option ℤ := none

namespace ProductImage

def withPrimary (isPrimary : Bool) (image : ProductImage) : ProductImage := { image with isPrimary }

def withMeta (data : UpdateImageMeta) (image : ProductImage) : ProductImage :=
  { image with
    altText := data.altText.or image.altText
    sortOrder := data.sortOrder.getD image.sortOrder }

/-- `product_image_one_primary` -/
def onePrimary (image : ProductImage) : Option String :=
  if image.isPrimary then some image.productId else none

end ProductImage

/-- A call, with what its environment answers: the uploaded files, and the order of images that
have one `sortOrder`. -/
inductive GalleryCall
  | uploadGalleryImages (productId : String) (uploaded : Except String (List GalleryAsset))
  | removeGalleryImage (productId imageId : String) (rank : String → ℕ)
  | reorderGalleryImages (productId : String) (orderedIds : List String)
  | setPrimaryImage (productId imageId : String)
  | updateImageMeta (productId imageId : String) (data : UpdateImageMeta)

namespace GalleryCall

def productId : GalleryCall → String
  | uploadGalleryImages productId _ | removeGalleryImage productId _ _
  | reorderGalleryImages productId _ | setPrimaryImage productId _
  | updateImageMeta productId _ _ => productId

def hasFiles : GalleryCall → Bool
  | uploadGalleryImages _ (.ok []) => false
  | _ => true

def isUpload : GalleryCall → Bool
  | uploadGalleryImages _ _ => true
  | _ => false

end GalleryCall

/-- The next statement of a call. One that has found its rows waits for the locks on them. -/
inductive GalleryPhase
  | start
  | finding
  | storing
  | locking
  | measuring
  | counting (sortOffset : ℤ)
  | inserting (rows : List ProductImage)
  | deleting (imageId : String) (wasPrimary : Bool)
  | deletingRows (targets : List String) (imageId : String) (wasPrimary : Bool)
  | promoting
  | clearing (imageId : String)
  | clearingRows (targets : List String) (imageId : String)
  | setting (imageId : String)
  | settingRows (targets : List String) (imageId : String)
  | editing (edits : List (String × UpdateImageMeta))
  | editingRows (targets : List String) (imageId : String) (data : UpdateImageMeta)
      (edits : List (String × UpdateImageMeta))
  | committing (emptied : Bool)
  | returned
  | failed (err : AppError)

namespace GalleryPhase

/-- An upload has counted the primary images. -/
def counted : GalleryPhase → Bool
  | inserting _ | committing false => true
  | _ => false

/-- A removal has deleted the image that was primary, and has found none to promote. -/
def emptying : GalleryPhase → Bool
  | committing true => true
  | _ => false

def ended : GalleryPhase → Bool
  | returned | failed _ => true
  | _ => false

end GalleryPhase

structure GalleryState (ι : Type) where
  products : List String
  images : Heap ι String ProductImage
  locks : String → Option ι := fun _ => none
  phases : ι → GalleryPhase := fun _ => .start

/-- The next statement of a call, or the end of its transaction from outside -/
inductive GalleryEvent (ι : Type)
  | statement (i : ι)
  | abort (i : ι)

/-- `orderBy: { sortOrder: "asc" }` -/
def firstImage (rank : String → ℕ) : List (String × ProductImage) → Option (String × ProductImage)
  | [] => none
  | image :: images =>
    match firstImage rank images with
    | none => some image
    | some next =>
      if next.2.sortOrder < image.2.sortOrder ∨
          next.2.sortOrder = image.2.sortOrder ∧ rank next.1 < rank image.1 then some next
      else some image

/-- The rows of the uploaded files, of which the first one is primary in a gallery without a
primary image -/
def galleryRows (productId : String) (sortOffset : ℤ) (hasPrimary : ℕ) (uploaded : List GalleryAsset) :
    List ProductImage :=
  uploaded.zipIdx.map fun (asset, idx) =>
    { id := asset.id, imageId := asset.imageId, productId, imageUrl := asset.url
      cloudinaryPublicId := some asset.publicId, altText := asset.altText
      isPrimary := hasPrimary = 0 ∧ idx = 0, sortOrder := sortOffset + idx }

namespace GalleryState
variable {ι : Type} [DecidableEq ι]

def setPhase (i : ι) (phase : GalleryPhase) (s : GalleryState ι) : GalleryState ι :=
  { s with phases := Function.update s.phases i phase }

def write (i : ι) (images : Heap ι String ProductImage) (phase : GalleryPhase)
    (s : GalleryState ι) : GalleryState ι :=
  { s with images, phases := Function.update s.phases i phase }

/-- The locks that are left when a transaction ends -/
def unlock (i : ι) (locks : String → Option ι) : String → Option ι :=
  fun productId => (locks productId).filter fun j => j ≠ i

def fail (i : ι) (err : AppError) (s : GalleryState ι) : GalleryState ι :=
  { s with
    images := s.images.rollback i
    locks := unlock i s.locks
    phases := Function.update s.phases i (.failed err) }

def commit (i : ι) (s : GalleryState ι) : GalleryState ι :=
  { s with
    images := s.images.commit i
    locks := unlock i s.locks
    phases := Function.update s.phases i .returned }

/-- The images of a product by their ids -/
def gallery (productId : String) (i : ι) (s : GalleryState ι) : List (String × ProductImage) :=
  (s.images.entries i).filter fun image => image.2.productId = productId

def findImage (imageId : String) (i : ι) (s : GalleryState ι) : Option ProductImage :=
  (s.images.slots.find? fun slot => slot.key = imageId).bind (Slot.seen i)

/-- `findFirst` by image and product -/
def imageOf (productId imageId : String) (i : ι) (s : GalleryState ι) : Option ProductImage :=
  (s.findImage imageId i).filter fun image => image.productId = productId

/-- The row that a statement finds by its key as it starts -/
def rowTargets (imageId : String) (i : ι) (s : GalleryState ι) : List String :=
  s.images.targets i fun k _ => k = imageId

def isPrimaryOf (productId : String) (image : ProductImage) : Bool :=
  image.productId = productId ∧ image.isPrimary

/-- One INSERT, whose rows the index lets in one after another. Where it waits, it starts again. -/
def createMany (i : ι) :
    List ProductImage → Heap ι String ProductImage → Except Insertion (Heap ι String ProductImage)
  | [], h => .ok h
  | row :: rows, h =>
    match h.verdict ProductImage.onePrimary i row.imageId row with
    | .inserted =>
      match h.insert i row.imageId row with
      | none => .error .waits
      | some h => createMany i rows h
    | verdict => .error verdict

def notFound : AppError := .error "No record was found for an update."

/-- The statements of the transactions behind the reads in front of them -/
def transaction (productId : String) (i : ι) (s : GalleryState ι) : GalleryState ι :=
  match s.phases i with
  | .inserting rows =>
      match createMany i rows s.images with
      | .error .violates => s.fail i (.uniqueViolation ["productId"])
      | .error _ => s
      | .ok images => s.write i images (.committing false)
  | .deleting imageId wasPrimary =>
      s.setPhase i (.deletingRows (s.rowTargets imageId i) imageId wasPrimary)
  | .deletingRows targets imageId wasPrimary =>
      if !s.images.free i targets then s
      else if !s.images.changes i targets (fun k _ => k = imageId) then
        s.fail i (.error "No record was found for a delete.")
      else
        s.write i (s.images.change i targets (fun k _ => k = imageId) fun _ => none)
          (if wasPrimary then .promoting else .committing false)
  | .clearing imageId =>
      s.setPhase i (.clearingRows (s.images.targets i fun _ r => isPrimaryOf productId r) imageId)
  | .clearingRows targets imageId =>
      if !s.images.free i targets then s
      else
        s.write i (s.images.change i targets (fun _ r => isPrimaryOf productId r) fun r =>
          some (r.withPrimary false)) (.setting imageId)
  | .setting imageId => s.setPhase i (.settingRows (s.rowTargets imageId i) imageId)
  | .settingRows targets imageId =>
      if !s.images.free i targets then s
      else if !s.images.changes i targets (fun k _ => k = imageId) then s.fail i notFound
      else
        match (s.findImage imageId i).map fun image =>
            s.images.verdict ProductImage.onePrimary i imageId (image.withPrimary true) with
        | none => s.fail i notFound
        | some .waits => s
        | some .violates => s.fail i (.uniqueViolation ["productId"])
        | some .inserted =>
          s.write i (s.images.change i targets (fun k _ => k = imageId) fun r =>
            some (r.withPrimary true)) (.committing false)
  | .editing [] => s.setPhase i (.committing false)
  | .editing ((imageId, data) :: edits) =>
      s.setPhase i (.editingRows (s.rowTargets imageId i) imageId data edits)
  | .editingRows targets imageId data edits =>
      if !s.images.free i targets then s
      else if !s.images.changes i targets (fun k _ => k = imageId) then s.fail i notFound
      else
        s.write i (s.images.change i targets (fun k _ => k = imageId) fun r =>
          some (r.withMeta data)) (.editing edits)
  | .committing _ => s.commit i
  | _ => s

/-- `resolveProductId`, in front of every operation -/
def resolveProductId (productId : String) (i : ι) (next : GalleryPhase) (s : GalleryState ι) :
    GalleryState ι :=
  if productId ∈ s.products then s.setPhase i next else s.fail i (.notFound "Product not found")

def uploadGalleryImages (productId : String) (uploaded : Except String (List GalleryAsset)) (i : ι)
    (s : GalleryState ι) : GalleryState ι :=
  match s.phases i with
  | .start =>
      match uploaded with
      | .ok [] => s.fail i (.badRequest "No image files provided")
      | _ => s.resolveProductId productId i .storing
  | .storing =>
      match uploaded with
      | .error message => s.fail i (.error message)
      | .ok _ => s.setPhase i .locking
  | .locking =>
      match s.locks productId with
      | none =>
        { s with
          locks := Function.update s.locks productId (some i)
          phases := Function.update s.phases i .measuring }
      | some _ => s
  | .measuring =>
      s.setPhase i (.counting
        (((s.gallery productId i).map fun image => image.2.sortOrder).max?.getD (-1) + 1))
  | .counting sortOffset =>
      let hasPrimary := (s.images.seen i).countP (isPrimaryOf productId)
      match uploaded with
      | .error _ => s
      | .ok assets => s.setPhase i (.inserting (galleryRows productId sortOffset hasPrimary assets))
  | _ => s.transaction productId i

def removeGalleryImage (productId imageId : String) (rank : String → ℕ) (i : ι)
    (s : GalleryState ι) : GalleryState ι :=
  match s.phases i with
  | .start => s.resolveProductId productId i .finding
  | .finding =>
      match s.imageOf productId imageId i with
      | none => s.fail i (.notFound "Image not found for this product")
      | some image => s.setPhase i (.deleting imageId image.isPrimary)
  | .promoting =>
      match firstImage rank (s.gallery productId i) with
      | none => s.setPhase i (.committing true)
      | some next => s.setPhase i (.setting next.1)
  | _ => s.transaction productId i

def reorderGalleryImages (productId : String) (orderedIds : List String) (i : ι)
    (s : GalleryState ι) : GalleryState ι :=
  match s.phases i with
  | .start => s.resolveProductId productId i .finding
  | .finding =>
      let invalid := orderedIds.filter fun id =>
        id ∉ (s.gallery productId i).map Prod.fst
      if !invalid.isEmpty then
        s.fail i (.badRequest
          ("Image IDs not found for this product: " ++ ", ".intercalate invalid))
      else
        s.setPhase i (.editing (orderedIds.zipIdx.map fun (id, idx) =>
          (id, { sortOrder := some (idx : ℤ) })))
  | _ => s.transaction productId i

def setPrimaryImage (productId imageId : String) (i : ι) (s : GalleryState ι) : GalleryState ι :=
  match s.phases i with
  | .start => s.resolveProductId productId i .finding
  | .finding =>
      match s.imageOf productId imageId i with
      | none => s.fail i (.notFound "Image not found for this product")
      | some _ => s.setPhase i (.clearing imageId)
  | _ => s.transaction productId i

def updateImageMeta (productId imageId : String) (data : UpdateImageMeta) (i : ι)
    (s : GalleryState ι) : GalleryState ι :=
  match s.phases i with
  | .start => s.resolveProductId productId i .finding
  | .finding =>
      match s.imageOf productId imageId i with
      | none => s.fail i (.notFound "Image not found for this product")
      | some _ => s.setPhase i (.editing [(imageId, data)])
  | _ => s.transaction productId i

def statement (call : GalleryCall) (i : ι) (s : GalleryState ι) : GalleryState ι :=
  match call with
  | .uploadGalleryImages productId uploaded => s.uploadGalleryImages productId uploaded i
  | .removeGalleryImage productId imageId rank => s.removeGalleryImage productId imageId rank i
  | .reorderGalleryImages productId orderedIds => s.reorderGalleryImages productId orderedIds i
  | .setPrimaryImage productId imageId => s.setPrimaryImage productId imageId i
  | .updateImageMeta productId imageId data => s.updateImageMeta productId imageId data i

def step (calls : ι → GalleryCall) (s : GalleryState ι) : GalleryEvent ι → GalleryState ι
  | .statement i => s.statement (calls i) i
  | .abort i => if (s.phases i).ended then s else s.fail i (.error "Transaction aborted")

def primaries (productId : String) (s : GalleryState ι) : ℕ :=
  s.images.committed.countP (isPrimaryOf productId)

/-- A gallery that is not empty has one primary image. -/
def EachPrimary (s : GalleryState ι) : Prop :=
  ∀ productId, (∃ image ∈ s.images.committed, image.productId = productId) →
    s.primaries productId = 1

/-- No call has begun, and no row is held by one. -/
structure Fresh (s : GalleryState ι) : Prop where
  phases : ∀ i, s.phases i = .start
  rows : ∀ slot ∈ s.images.slots, slot.pending = none

/-- What the next statement of a call is to find. A removal deletes a primary image only if it has
read it as primary, and where it has none to promote no upload has counted the primary images; an
upload counts them while no such removal is about to commit. -/
def Finds (calls : ι → GalleryCall) (s : GalleryState ι) (i : ι) : GalleryPhase → Prop
  | .deletingRows targets _ false => s.images.free i targets = true →
      ∀ slot ∈ s.images.slots, slot.key ∈ targets → slot.stored.any ProductImage.isPrimary = false
  | .promoting => (s.gallery (calls i).productId i).isEmpty = true →
      ∀ j, (calls j).isUpload = true → (calls j).productId = (calls i).productId →
        (s.phases j).counted = false
  | .counting _ => ∀ j, (calls j).productId = (calls i).productId → (s.phases j).emptying = false
  | _ => True

def Apart (calls : ι → GalleryCall) (s : GalleryState ι) : GalleryEvent ι → Prop
  | .abort _ => True
  | .statement i => s.Finds calls i (s.phases i)

instance [Fintype ι] (calls : ι → GalleryCall) (s : GalleryState ι) (i : ι) :
    ∀ phase, Decidable (s.Finds calls i phase)
  | .deletingRows targets _ false => inferInstanceAs (Decidable (_ = true →
      ∀ slot ∈ s.images.slots, slot.key ∈ targets →
        slot.stored.any ProductImage.isPrimary = false))
  | .promoting => inferInstanceAs (Decidable (_ = true → ∀ _, _ → _ → _ = _))
  | .counting _ => inferInstanceAs (Decidable (∀ _, _ → _ = _))
  | .start | .finding | .storing | .locking | .measuring | .inserting _ | .deleting _ _
  | .deletingRows _ _ true | .clearing _ | .clearingRows _ _ | .setting _ | .settingRows _ _ | .editing _
  | .editingRows _ _ _ _ | .committing _ | .returned | .failed _ => inferInstanceAs (Decidable True)

instance [Fintype ι] (calls : ι → GalleryCall) (s : GalleryState ι) :
    ∀ e, Decidable (Apart calls s e)
  | .abort _ => inferInstanceAs (Decidable True)
  | .statement i => inferInstanceAs (Decidable (s.Finds calls i (s.phases i)))

end GalleryState
end InstalFlow
