import InstalFlow.GalleryImages
import InstalFlow.Relational.HeapIndex

/-!
# The primary image of a gallery

The index allows one primary image at most. That there is one at all depends on what a
transaction has read: it holds of what the transaction sees when it commits, as long as no
primary image is removed unread, or counted by an upload and removed without another one.
-/

namespace InstalFlow
open Relational Transition GalleryState

def isImageOf (productId : String) (image : ProductImage) : Bool := image.productId = productId

section invariant
variable {ι : Type} [DecidableEq ι] (productId : String)

def HasPrimary (h : Heap ι String ProductImage) : Prop :=
  0 < h.committed.countP (isPrimaryOf productId)

/-- What a transaction that is not an emptying removal commits: a primary image of its own, or all
the committed ones, and images of the product only where there have been some. -/
def Commits (call : GalleryCall) (i : ι) (h : Heap ι String ProductImage) : Prop :=
  (∃ s ∈ h.slots, s.writer = some i ∧ (s.seen i).any (isPrimaryOf productId) = true) ∨
    (∀ s ∈ h.slots, s.writer = some i → s.stored.any (isPrimaryOf productId) = true →
      (s.seen i).any (isPrimaryOf productId) = true) ∧
    (call.isUpload = true ∧ HasPrimary productId h ∨
      ∀ s ∈ h.slots, s.writer = some i → (s.seen i).any (isImageOf productId) = true →
        s.stored.any (isImageOf productId) = true)

namespace GalleryPhase

/-- What the phase of a call knows of the call. -/
def Of (call : GalleryCall) (h : Heap ι String ProductImage) : GalleryPhase → Prop
  | storing | locking | measuring | counting _ => call.hasFiles = true
  | inserting rows => call.isUpload = true ∧ ∀ row ∈ rows, row.productId = call.productId
  | deleting imageId _ | deletingRows _ imageId _ | clearing imageId | clearingRows _ imageId
  | setting imageId | settingRows _ imageId =>
      call.isUpload = false ∧ h.Has ProductImage.productId imageId call.productId
  | promoting | editing _ | editingRows _ _ _ _ | committing true => call.isUpload = false
  | _ => True

/-- What a call has done to the gallery of its product. -/
def Own (call : GalleryCall) (i : ι) (h : Heap ι String ProductImage) : GalleryPhase → Prop
  | editing _ | editingRows _ _ _ _ =>
      h.Keeps (isImageOf productId) i ∧ h.Keeps (isPrimaryOf productId) i
  | inserting rows => h.Unwritten i ∧
      (rows.any (isPrimaryOf productId) = true ∨ HasPrimary productId h)
  | promoting | setting _ | settingRows _ _ => True
  | committing true => (h.seen i).countP (isImageOf productId) = 0
  | committing false => Commits productId call i h
  | _ => h.Unwritten i

structure Holds (call : GalleryCall) (i : ι) (h : Heap ι String ProductImage)
    (phase : GalleryPhase) : Prop where
  other : call.productId ≠ productId →
    h.Keeps (isImageOf productId) i ∧ h.Keeps (isPrimaryOf productId) i
  own : call.productId = productId → phase.Own productId call i h
  replaces : call.isUpload = false → h.Replaces i

end GalleryPhase

structure GalleryInv (calls : ι → GalleryCall) (h : Heap ι String ProductImage)
    (phases : ι → GalleryPhase) : Prop where
  products : h.Fixed ProductImage.productId
  index : h.Indexed ProductImage.onePrimary
  fits : ∀ i, (phases i).Of (calls i) h
  holds : ∀ i, (phases i).Holds productId (calls i) i h
  whole : 0 < h.committed.countP (isImageOf productId) → HasPrimary productId h
  apart : ∀ i j, (calls i).isUpload = true → (calls i).productId = productId →
    (phases i).counted = true → (calls j).productId = productId → (phases j).emptying = false

end invariant

section frames
variable {ι : Type} [DecidableEq ι] {productId : String} {i j : ι}
  {h h' : Heap ι String ProductImage} {call : GalleryCall} {phase : GalleryPhase}

theorem Commits.same (hc : Commits productId call j h) (hs : h.Same j h')
    (hprimary : call.isUpload = true → HasPrimary productId h → HasPrimary productId h') :
    Commits productId call j h' := by
  rcases hc with ⟨s, hmem, hw, hseen⟩ | ⟨hloss, hgain⟩
  · exact .inl ⟨s, (hs s hw).mpr hmem, hw, hseen⟩
  · refine .inr ⟨fun s hmem hw => hloss s ((hs s hw).mp hmem) hw, ?_⟩
    rcases hgain with ⟨hupload, hsome⟩ | hgain
    · exact .inl ⟨hupload, hprimary hupload hsome⟩
    · exact .inr fun s hmem hw => hgain s ((hs s hw).mp hmem) hw

/-- What a call relies on, after a statement of another one -/
theorem GalleryPhase.Holds.same (hh : phase.Holds productId call j h) (hs : h.Same j h')
    (hprimary : call.isUpload = true → call.productId = productId → phase.counted = true →
      HasPrimary productId h → HasPrimary productId h')
    (hempty : call.productId = productId → phase.emptying = true →
      (h.seen j).countP (isImageOf productId) = 0 → (h'.seen j).countP (isImageOf productId) = 0)
    (hfits : phase.Of call h) : phase.Holds productId call j h' where
  other hne := ⟨hs.keeps (hh.other hne).1, hs.keeps (hh.other hne).2⟩
  own hown := by
    have howned := hh.own hown
    cases phase with
    | editing edits => exact ⟨hs.keeps howned.1, hs.keeps howned.2⟩
    | editingRows targets imageId data edits => exact ⟨hs.keeps howned.1, hs.keeps howned.2⟩
    | inserting rows => exact ⟨hs.unwritten howned.1, howned.2.imp id (hprimary hfits.1 hown rfl)⟩
    | promoting => trivial
    | setting imageId => trivial
    | settingRows targets imageId => trivial
    | committing emptied =>
      cases emptied with
      | true => exact hempty hown rfl howned
      | false => exact howned.same hs fun hupload => hprimary hupload hown rfl
    | _ => exact hs.unwritten howned
  replaces hupload := hs.replaces (hh.replaces hupload)

omit [DecidableEq ι] in
theorem GalleryPhase.Of.preserves (hphase : phase.Of call h)
    (hp : h.Preserves ProductImage.productId h') : phase.Of call h' := by
  cases phase with
  | deleting imageId wasPrimary => exact ⟨hphase.1, hp.has _ _ hphase.2⟩
  | deletingRows targets imageId wasPrimary => exact ⟨hphase.1, hp.has _ _ hphase.2⟩
  | clearing imageId => exact ⟨hphase.1, hp.has _ _ hphase.2⟩
  | clearingRows targets imageId => exact ⟨hphase.1, hp.has _ _ hphase.2⟩
  | setting imageId => exact ⟨hphase.1, hp.has _ _ hphase.2⟩
  | settingRows targets imageId => exact ⟨hphase.1, hp.has _ _ hphase.2⟩
  | committing emptied => cases emptied <;> exact hphase
  | _ => exact hphase

theorem hasPrimary_commit_iff : HasPrimary productId (h.commit i) ↔
    ∃ s ∈ h.slots, (s.seen i).any (isPrimaryOf productId) = true := by
  rw [HasPrimary, Heap.committed_commit, Heap.countP_seen, List.countP_pos_iff]

theorem Commits.hasPrimary (hc : Commits productId call i h) (hsome : HasPrimary productId h) :
    HasPrimary productId (h.commit i) := by
  rw [hasPrimary_commit_iff]
  rcases hc with ⟨s, hmem, -, hseen⟩ | ⟨hloss, -⟩
  · exact ⟨s, hmem, hseen⟩
  · rw [HasPrimary, Heap.countP_committed, List.countP_pos_iff] at hsome
    obtain ⟨s, hmem, hstored⟩ := hsome
    refine ⟨s, hmem, ?_⟩
    by_cases hw : s.writer = some i
    · exact hloss s hmem hw hstored
    · rwa [Slot.seen_of_writer_ne hw]

theorem Commits.whole (hc : Commits productId call i h)
    (hwhole : 0 < h.committed.countP (isImageOf productId) → HasPrimary productId h)
    (hsome : 0 < (h.commit i).committed.countP (isImageOf productId)) :
    HasPrimary productId (h.commit i) := by
  rcases hc with hown | ⟨hloss, ⟨hupload, hprimary⟩ | hgain⟩
  · rw [hasPrimary_commit_iff]
    obtain ⟨s, hmem, -, hseen⟩ := hown
    exact ⟨s, hmem, hseen⟩
  · exact Commits.hasPrimary (.inr ⟨hloss, .inl ⟨hupload, hprimary⟩⟩) hprimary
  · have hc : Commits productId call i h := .inr ⟨hloss, .inr hgain⟩
    refine hc.hasPrimary (hwhole ?_)
    rw [Heap.committed_commit, Heap.countP_seen, List.countP_pos_iff] at hsome
    obtain ⟨s, hmem, hseen⟩ := hsome
    rw [Heap.countP_committed, List.countP_pos_iff]
    refine ⟨s, hmem, ?_⟩
    by_cases hw : s.writer = some i
    · exact hgain s hmem hw hseen
    · rwa [Slot.seen_of_writer_ne hw] at hseen

/-- A statement that commits nothing, as the other calls find it -/
structure GalleryFrame (productId : String) (i : ι) (h h' : Heap ι String ProductImage) : Prop where
  same : ∀ j, j ≠ i → h.Same j h'
  seen : ∀ j, j ≠ i → (h'.seen j).countP (isImageOf productId) =
    (h.seen j).countP (isImageOf productId)
  products : h.Preserves ProductImage.productId h'
  committed : h'.committed = h.committed

namespace GalleryFrame

theorem refl (h : Heap ι String ProductImage) : GalleryFrame productId i h h :=
  ⟨fun _ _ _ _ => Iff.rfl, fun _ _ => rfl, .refl h, rfl⟩

theorem trans {h'' : Heap ι String ProductImage} (hf : GalleryFrame productId i h h')
    (hf' : GalleryFrame productId i h' h'') : GalleryFrame productId i h h'' where
  same j hne s hw := (hf'.same j hne s hw).trans (hf.same j hne s hw)
  seen j hne := (hf'.seen j hne).trans (hf.seen j hne)
  products := ⟨fun hfixed => hf'.products.fixed (hf.products.fixed hfixed),
    fun k x hhas => hf'.products.has k x (hf.products.has k x hhas)⟩
  committed := hf'.committed.trans hf.committed

theorem change {keys : List String} {p : String → ProductImage → Bool}
    {f : ProductImage → Option ProductImage} (hfree : h.free i keys = true)
    (hf : ∀ r, ∀ r' ∈ f r, r'.productId = r.productId) :
    GalleryFrame productId i h (h.change i keys p f) :=
  ⟨fun _ hne => Heap.same_change hne hfree, fun _ hne => (Heap.Alike.change hne hfree).countP_seen,
    Heap.preserves_change hf, Heap.committed_change⟩

theorem insert {k : String} {r : ProductImage} (hi : h.insert i k r = some h') :
    GalleryFrame productId i h h' :=
  ⟨fun _ hne => Heap.same_insert hne hi, fun _ hne => (Heap.Alike.insert hne hi).countP_seen,
    Heap.preserves_insert hi, Heap.committed_insert hi⟩

theorem rollback : GalleryFrame productId i h (h.rollback i) :=
  ⟨fun _ hne => Heap.same_rollback hne, fun _ hne => (Heap.Alike.rollback hne).countP_seen,
    Heap.preserves_rollback, Heap.committed_rollback⟩

end GalleryFrame
end frames

section steps
variable {ι : Type} [DecidableEq ι] {productId : String} {i : ι} {calls : ι → GalleryCall}
  {h h' : Heap ι String ProductImage} {phases : ι → GalleryPhase} {phase : GalleryPhase}
  {s : GalleryState ι}

theorem GalleryPhase.emptying_of_counted (h : phase.counted = true) : phase.emptying = false := by
  cases phase with
  | committing emptied => cases emptied <;> first | rfl | cases h
  | inserting rows => rfl
  | _ => cases h

namespace GalleryInv

/-- The call `i` goes on to another phase. -/
theorem next (hs : GalleryInv productId calls h phases)
    (hproducts : h.Preserves ProductImage.productId h') (hindex : h'.Indexed ProductImage.onePrimary)
    (hothers : ∀ j, j ≠ i → (phases j).Holds productId (calls j) j h')
    (hown : phase.Holds productId (calls i) i h') (hfits : phase.Of (calls i) h')
    (hwhole : 0 < h'.committed.countP (isImageOf productId) → HasPrimary productId h')
    (hcount : phase.counted = true → (calls i).isUpload = true → (calls i).productId = productId →
      ∀ j, (calls j).productId = productId → (phases j).emptying = false)
    (hempty : phase.emptying = true → (calls i).productId = productId →
      ∀ j, (calls j).isUpload = true → (calls j).productId = productId →
        (phases j).counted = false) :
    GalleryInv productId calls h' (Function.update phases i phase) where
  products := hproducts.fixed hs.products
  index := hindex
  fits j := by
    by_cases hj : j = i
    · subst hj
      simpa using hfits
    · simpa [hj] using (hs.fits j).preserves hproducts
  holds j := by
    by_cases hj : j = i
    · subst hj
      simpa using hown
    · simpa [hj] using hothers j hj
  whole := hwhole
  apart j k hupload hj hcounted hk := by
    by_cases hji : j = i
    · subst hji
      rw [Function.update_self] at hcounted
      by_cases hki : k = j
      · subst hki
        rw [Function.update_self]
        exact GalleryPhase.emptying_of_counted hcounted
      · rw [Function.update_of_ne hki]
        exact hcount hcounted hupload hj k hk
    · rw [Function.update_of_ne hji] at hcounted
      by_cases hki : k = i
      · subst hki
        rw [Function.update_self]
        cases hphase : phase.emptying with
        | false => rfl
        | true =>
          rw [hempty hphase hk j hupload hj] at hcounted
          cases hcounted
      · rw [Function.update_of_ne hki]
        exact hs.apart j k hupload hj hcounted hk

theorem frame (hs : GalleryInv productId calls h phases) (hf : GalleryFrame productId i h h')
    (hindex : h'.Indexed ProductImage.onePrimary)
    (hown : phase.Holds productId (calls i) i h') (hfits : phase.Of (calls i) h')
    (hcount : phase.counted = true → (calls i).isUpload = true → (calls i).productId = productId →
      ∀ j, (calls j).productId = productId → (phases j).emptying = false)
    (hempty : phase.emptying = true → (calls i).productId = productId →
      ∀ j, (calls j).isUpload = true → (calls j).productId = productId →
        (phases j).counted = false) :
    GalleryInv productId calls h' (Function.update phases i phase) := by
  have hprimary : HasPrimary productId h → HasPrimary productId h' := fun hsome => by
    rwa [HasPrimary, hf.committed]
  refine hs.next hf.products hindex (fun j hne => ?_) hown hfits (fun hsome => ?_) hcount hempty
  · exact (hs.holds j).same (hf.same j hne) (fun _ _ _ => hprimary)
      (fun _ _ hnone => (hf.seen j hne).trans hnone) (hs.fits j)
  · rw [hf.committed] at hsome
    exact hprimary (hs.whole hsome)

/-- A phase that neither has counted nor is emptying -/
theorem onward (hs : GalleryInv productId calls h phases) (hf : GalleryFrame productId i h h')
    (hindex : h'.Indexed ProductImage.onePrimary)
    (hown : phase.Holds productId (calls i) i h') (hfits : phase.Of (calls i) h')
    (hcount : phase.counted = true → (calls i).isUpload = false) (hempty : phase.emptying = false) :
    GalleryInv productId calls h' (Function.update phases i phase) :=
  hs.frame hf hindex hown hfits
    (fun hcounted hupload => absurd (hupload.symm.trans (hcount hcounted)) (by decide))
    fun hemptying => absurd (hemptying.symm.trans hempty) (by decide)

end GalleryInv

theorem GalleryPhase.holds_of_unwritten {call : GalleryCall} (hu : h.Unwritten i)
    (hown : phase.Own productId call i h) : phase.Holds productId call i h :=
  ⟨fun _ => ⟨hu.keeps, hu.keeps⟩, fun _ => hown, fun _ s hs hw => absurd hw (hu s hs)⟩

theorem isPrimaryOf_iff {image : ProductImage} :
    isPrimaryOf productId image = true ↔ image.productId = productId ∧ image.isPrimary = true :=
  decide_eq_true_iff

theorem not_image_of_other {image : ProductImage} (h : image.productId ≠ productId) :
    isImageOf productId image = false ∧ isPrimaryOf productId image = false :=
  ⟨decide_eq_false h, decide_eq_false fun hand => h hand.1⟩

theorem createMany_eq_ok (productId : String) {rows : List ProductImage}
    (hrows : createMany i rows h = .ok h') :
    GalleryFrame productId i h h' ∧
      (h.Indexed ProductImage.onePrimary → h'.Indexed ProductImage.onePrimary) ∧
      h'.slots = h.slots ++ rows.map fun r => ⟨r.imageId, none, some (i, some r)⟩ := by
  induction rows generalizing h with
  | nil =>
    cases hrows
    exact ⟨.refl _, id, (List.append_nil _).symm⟩
  | cons row rows ih =>
    rw [createMany] at hrows
    split at hrows
    · rename_i hverdict
      split at hrows
      · cases hrows
      · rename_i h₁ hinsert
        obtain ⟨hframe, hindex, hslots⟩ := ih hrows
        refine ⟨(GalleryFrame.insert hinsert).trans hframe,
          fun hh => hindex (hh.insert hverdict hinsert), ?_⟩
        rw [hslots, (Heap.insert_eq_some hinsert).2, List.append_assoc]
        rfl
    · cases hrows

namespace GalleryInv

theorem fail (hs : GalleryInv productId calls s.images s.phases) (i : ι) (err : AppError) :
    GalleryInv productId calls (s.fail i err).images (s.fail i err).phases :=
  hs.onward .rollback hs.index.rollback
    (GalleryPhase.holds_of_unwritten Heap.unwritten_rollback Heap.unwritten_rollback) trivial
    (fun hcounted => by cases hcounted) rfl

/-- The rows of an upload, of which one is primary, or a primary image is committed. -/
theorem inserting (hs : GalleryInv productId calls s.images s.phases) {rows : List ProductImage}
    (hphase : s.phases i = .inserting rows) (hrows : createMany i rows s.images = .ok h') :
    GalleryInv productId calls h' (Function.update s.phases i (.committing false)) := by
  have hholds := hs.holds i
  have hfits := hs.fits i
  rw [hphase] at hholds hfits
  obtain ⟨hupload, hproduct⟩ : (calls i).isUpload = true ∧
    ∀ row ∈ rows, row.productId = (calls i).productId := hfits
  obtain ⟨hframe, hindex, hslots⟩ := createMany_eq_ok productId hrows
  have hmem {slot : Slot ι String ProductImage} (hslot : slot ∈ h'.slots) :
      slot ∈ s.images.slots ∨ ∃ row ∈ rows, slot = ⟨row.imageId, none, some (i, some row)⟩ := by
    rw [hslots, List.mem_append, List.mem_map] at hslot
    refine hslot.imp id fun hnew => ?_
    obtain ⟨row, hrow, he⟩ := hnew
    exact ⟨row, hrow, he.symm⟩
  refine hs.frame hframe (hindex hs.index) ⟨fun hne => ?_, fun hown => ?_, fun hno => ?_⟩ trivial
    (fun _ hi hp j hj => hs.apart i j hi hp (by rw [hphase]; rfl) hj) fun h => by cases h
  · obtain ⟨himage, hprimary⟩ := hholds.other hne
    have hother {row : ProductImage} (hrow : row ∈ rows) : row.productId ≠ productId := by
      rw [hproduct row hrow]
      exact hne
    constructor
    · intro slot hslot hw
      rcases hmem hslot with hslot | ⟨row, hrow, rfl⟩
      · exact himage slot hslot hw
      · rw [Heap.seen_inserted]
        exact (not_image_of_other (hother hrow)).1
    · intro slot hslot hw
      rcases hmem hslot with hslot | ⟨row, hrow, rfl⟩
      · exact hprimary slot hslot hw
      · rw [Heap.seen_inserted]
        exact (not_image_of_other (hother hrow)).2
  · obtain ⟨hunwritten, hsome | hsome⟩ := hholds.own hown
    · obtain ⟨row, hrow, hprimary⟩ := List.any_eq_true.mp hsome
      refine .inl ⟨⟨row.imageId, none, some (i, some row)⟩, ?_, rfl, ?_⟩
      · rw [hslots]
        exact List.mem_append_right _ (List.mem_map_of_mem hrow)
      · rw [Heap.seen_inserted]
        exact hprimary
    · refine .inr ⟨fun slot hslot hw hstored => ?_, .inl ⟨hupload, ?_⟩⟩
      · rcases hmem hslot with hslot | ⟨row, hrow, rfl⟩
        · exact absurd hw (hunwritten slot hslot)
        · cases hstored
      · rw [HasPrimary, hframe.committed]
        exact hsome
  · rw [hupload] at hno
    cases hno

theorem deletingRows (hs : GalleryInv productId calls s.images s.phases) {targets : List String}
    {imageId : String} {wasPrimary : Bool}
    (hphase : s.phases i = .deletingRows targets imageId wasPrimary)
    (hfree : s.images.free i targets = true)
    (hfinds : s.Finds calls i (.deletingRows targets imageId wasPrimary)) :
    GalleryInv productId calls
      (s.images.change i targets (fun k _ => k = imageId) fun _ => none)
      (Function.update s.phases i (if wasPrimary then .promoting else .committing false)) := by
  have hholds := hs.holds i
  have hfits := hs.fits i
  rw [hphase] at hholds hfits
  obtain ⟨hremoves, hhas⟩ : (calls i).isUpload = false ∧
    s.images.Has ProductImage.productId imageId (calls i).productId := hfits
  have hkeeps (q : ProductImage → Bool) (hk : s.images.Keeps q i)
      (hq : ∀ image, image.productId = (calls i).productId → q image = false) :
      (s.images.change i targets (fun k _ => k = imageId) fun _ => none).Keeps q i := by
    refine hk.change fun slot hslot _ r hr hkey => ?_
    rw [hq r (hhas.seen hslot (of_decide_eq_true hkey) hr)]
    rfl
  have hother (hne : (calls i).productId ≠ productId) :=
    And.intro (hkeeps _ (hholds.other hne).1 fun image he => (not_image_of_other (he ▸ hne)).1)
      (hkeeps _ (hholds.other hne).2 fun image he => (not_image_of_other (he ▸ hne)).2)
  have hframe : GalleryFrame productId i s.images
      (s.images.change i targets (fun k _ => k = imageId) fun _ => none) :=
    .change hfree fun _ _ hr' => by cases hr'
  have hindex := hs.index.change (p := fun k _ => k = imageId) (f := fun _ => none) hfree
    fun _ _ hr' => by cases hr'
  cases wasPrimary with
  | true =>
    exact hs.onward hframe hindex
      ⟨hother, fun _ => trivial, fun hno => (hholds.replaces hno).change⟩ hremoves
      (fun h => by cases h) rfl
  | false =>
    refine hs.onward hframe hindex ⟨hother, fun hown => ?_, fun hno => (hholds.replaces hno).change⟩
      trivial (fun _ => hremoves) rfl
    have hunwritten : s.images.Unwritten i := hholds.own hown
    have hgone {slot' : Slot ι String ProductImage}
        (hslot' : slot' ∈ (s.images.change i targets (fun k _ => k = imageId) fun _ => none).slots)
        (hw : slot'.writer = some i) : slot'.seen i = none ∧
          slot'.stored.any ProductImage.isPrimary = false := by
      obtain ⟨slot, hslot, rfl⟩ := Heap.mem_change.mp hslot'
      rcases Heap.change_cases hfree hslot with he | ⟨htarget, -, r, -, -, he⟩
      · rw [he] at hw
        exact absurd hw (hunwritten slot hslot)
      · rw [he]
        exact ⟨Slot.seen_write_self, hfinds hfree slot hslot htarget⟩
    refine .inr ⟨fun slot hslot hw hstored => ?_, .inr fun slot hslot hw hseen => ?_⟩
    · obtain ⟨image, himage, hprimary⟩ := (Option.any_eq_true _ _).mp hstored
      have hnot := (hgone hslot hw).2
      rw [Option.mem_def.mp himage, Option.any_some, (isPrimaryOf_iff.mp hprimary).2] at hnot
      cases hnot
    · rw [(hgone hslot hw).1] at hseen
      cases hseen

theorem clearingRows (hs : GalleryInv productId calls s.images s.phases) {targets : List String}
    {imageId : String} (hphase : s.phases i = .clearingRows targets imageId)
    (hfree : s.images.free i targets = true) :
    GalleryInv productId calls
      (s.images.change i targets (fun _ r => isPrimaryOf (calls i).productId r) fun r =>
        some (r.withPrimary false)) (Function.update s.phases i (.setting imageId)) := by
  have hholds := hs.holds i
  have hfits := hs.fits i
  rw [hphase] at hholds hfits
  have hframe : GalleryFrame productId i s.images (s.images.change i targets
      (fun _ r => isPrimaryOf (calls i).productId r) fun r => some (r.withPrimary false)) :=
    .change hfree fun _ _ hr' => by
      cases hr'
      rfl
  refine hs.onward hframe (hs.index.change hfree fun r r' hr' k hk => ?_)
    ⟨fun hne => ?_, fun _ => trivial, fun hno => (hholds.replaces hno).change⟩
    ⟨hfits.1, hframe.products.has _ _ hfits.2⟩ (fun h => by cases h) rfl
  · cases hr'
    cases hk
  · have hother {r : ProductImage} (hp : isPrimaryOf (calls i).productId r = true) :
        r.productId ≠ productId := by
      rw [(isPrimaryOf_iff.mp hp).1]
      exact hne
    constructor
    · refine (hholds.other hne).1.change fun slot _ _ r _ hp => ?_
      have hne : r.productId ≠ productId := hother hp
      rw [(not_image_of_other hne).1]
      exact decide_eq_false hne
    · refine (hholds.other hne).2.change fun slot _ _ r _ hp => ?_
      have hne : r.productId ≠ productId := hother hp
      rw [(not_image_of_other hne).2]
      exact decide_eq_false fun hand => hne hand.1

/-- The image that the index lets be primary -/
theorem settingRows (hs : GalleryInv productId calls s.images s.phases) {targets : List String}
    {imageId : String} {image : ProductImage} (hphase : s.phases i = .settingRows targets imageId)
    (hfree : s.images.free i targets = true)
    (hchanges : s.images.changes i targets (fun k _ => k = imageId) = true)
    (himage : s.findImage imageId i = some image)
    (hverdict : s.images.verdict ProductImage.onePrimary i imageId (image.withPrimary true) =
      .inserted) :
    GalleryInv productId calls
      (s.images.change i targets (fun k _ => k = imageId) fun r => some (r.withPrimary true))
      (Function.update s.phases i (.committing false)) := by
  have hholds := hs.holds i
  have hfits := hs.fits i
  rw [hphase] at hholds hfits
  obtain ⟨hsets, hhas⟩ : (calls i).isUpload = false ∧
    s.images.Has ProductImage.productId imageId (calls i).productId := hfits
  have hproduct {slot : Slot ι String ProductImage} (hslot : slot ∈ s.images.slots)
      (hkey : slot.key = imageId) {r : ProductImage} (hr : r ∈ slot.seen i) :
      r.productId = (calls i).productId := hhas.seen hslot hkey hr
  have hfound {slot : Slot ι String ProductImage} (hslot : slot ∈ s.images.slots)
      (hkey : slot.key = imageId) {r : ProductImage} (hr : r ∈ slot.seen i) : r = image := by
    obtain ⟨slot', hslot', hseen⟩ := Option.bind_eq_some_iff.mp himage
    have hkey' : slot'.key = imageId := by simpa using List.find?_some hslot'
    obtain rfl := Heap.key_injective hslot (List.mem_of_find?_eq_some hslot')
      (hkey.trans hkey'.symm)
    exact Option.some.inj ((Option.mem_def.mp hr).symm.trans hseen)
  refine hs.onward (.change hfree fun r r' hr' => ?_)
    (hs.index.change_of_verdict hfree fun slot hslot hkey r hr r' hr' => ?_)
    ⟨fun hne => ?_, fun hown => ?_, fun hno => (hholds.replaces hno).change⟩ trivial
    (fun _ => hsets) rfl
  · cases hr'
    rfl
  · cases hr'
    rw [hfound hslot hkey hr]
    exact hverdict
  · have hother {slot : Slot ι String ProductImage} (hslot : slot ∈ s.images.slots)
        {r : ProductImage} (hr : r ∈ slot.seen i) (hkey : decide (slot.key = imageId) = true) :
        r.productId ≠ productId := by
      rw [hproduct hslot (of_decide_eq_true hkey) hr]
      exact hne
    constructor
    · refine (hholds.other hne).1.change fun slot hslot _ r hr hkey => ?_
      have hne : r.productId ≠ productId := hother hslot hr hkey
      rw [(not_image_of_other hne).1]
      exact decide_eq_false hne
    · refine (hholds.other hne).2.change fun slot hslot _ r hr hkey => ?_
      have hne : r.productId ≠ productId := hother hslot hr hkey
      rw [(not_image_of_other hne).2]
      exact decide_eq_false fun hand => hne hand.1
  · obtain ⟨slot, hslot, htarget⟩ := List.any_eq_true.mp hchanges
    have htarget := of_decide_eq_true htarget
    obtain ⟨r, hr, hkey⟩ := (Option.any_eq_true _ _).mp htarget.2
    refine .inl ⟨_, Heap.mem_change.mpr ⟨slot, hslot, rfl⟩, ?_, ?_⟩
    · rw [Slot.change, if_pos htarget]
      rfl
    · rw [Heap.seen_change, if_pos htarget, Option.mem_def.mp hr, Option.bind_some, Option.any_some,
        isPrimaryOf_iff]
      exact ⟨(hproduct hslot (of_decide_eq_true hkey) hr).trans hown, rfl⟩

theorem editingRows (hs : GalleryInv productId calls s.images s.phases) {targets : List String}
    {imageId : String} {data : UpdateImageMeta} {edits : List (String × UpdateImageMeta)}
    (hphase : s.phases i = .editingRows targets imageId data edits)
    (hfree : s.images.free i targets = true) :
    GalleryInv productId calls
      (s.images.change i targets (fun k _ => k = imageId) fun r => some (r.withMeta data))
      (Function.update s.phases i (.editing edits)) := by
  have hholds := hs.holds i
  have hfits := hs.fits i
  rw [hphase] at hholds hfits
  have hkeeps {q : ProductImage → Bool} (hq : ∀ r, q (r.withMeta data) = q r)
      (hk : s.images.Keeps q i) : (s.images.change i targets (fun k _ => k = imageId) fun r =>
        some (r.withMeta data)).Keeps q i :=
    hk.change fun slot _ _ r _ _ => hq r
  refine hs.onward (.change hfree fun r r' hr' => ?_)
    (hs.index.change hfree fun r r' hr' k hk => ?_)
    ⟨fun hne => ?_, fun hown => ?_, fun hno => (hholds.replaces hno).change⟩ hfits
    (fun h => by cases h) rfl
  · cases hr'
    rfl
  · cases hr'
    exact hk
  · exact ⟨hkeeps (fun _ => rfl) (hholds.other hne).1, hkeeps (fun _ => rfl) (hholds.other hne).2⟩
  · exact ⟨hkeeps (fun _ => rfl) (hholds.own hown).1, hkeeps (fun _ => rfl) (hholds.own hown).2⟩

/-- An emptied gallery stays empty: only an upload adds images to it. -/
theorem seen_commit_empty (hs : GalleryInv productId calls h phases) {j : ι} (hne : j ≠ i)
    {emptied : Bool} (hphase : phases i = .committing emptied)
    (hproduct : (calls j).productId = productId) (hemptying : (phases j).emptying = true)
    (hnone : (h.seen j).countP (isImageOf productId) = 0) :
    ((h.commit i).seen j).countP (isImageOf productId) = 0 := by
  rw [Heap.countP_seen, List.countP_eq_zero] at hnone ⊢
  intro slot' hslot'
  obtain ⟨slot, hslot, rfl⟩ := Heap.mem_mapSlots.mp hslot'
  by_cases hw : slot.writer = some i
  · have hj : slot.writer ≠ some j := fun hj => hne (Option.some.inj (hj.symm.trans hw))
    have hj' : (slot.commit i).writer ≠ some j := fun h =>
      hj ((Slot.writer_rollback_of_ne hne).mp h)
    have hstored : ¬ slot.stored.any (isImageOf productId) = true := by
      have hseen := hnone slot hslot
      rwa [Slot.seen_of_writer_ne hj] at hseen
    rw [Slot.seen_of_writer_ne hj']
    have hcommitted : (slot.commit i).stored = slot.seen i := rfl
    rw [hcommitted]
    intro himage
    obtain ⟨image, hseen, himage⟩ := (Option.any_eq_true _ _).mp himage
    by_cases hp : (calls i).productId = productId
    · cases hold : slot.stored with
      | none =>
        have hupload : (calls i).isUpload = true := by
          by_contra hno
          have hsome := (hs.holds i).replaces (by simpa using hno) slot hslot hw
          rw [hold] at hsome
          cases hsome
        have hcounted : (phases i).counted = true := by
          have hfits := hs.fits i
          rw [hphase] at hfits ⊢
          cases emptied with
          | false => rfl
          | true => exact absurd (hupload.symm.trans hfits) (by decide)
        rw [hs.apart i j hupload hp hcounted hproduct] at hemptying
        cases hemptying
      | some old =>
        obtain ⟨x, hx⟩ := hs.products slot hslot
        have hsame : old.productId = image.productId :=
          (hx.1 old hold).trans (hx.seen i image hseen).symm
        rw [hold, Option.any_some] at hstored
        exact hstored (decide_eq_true (hsame.trans (of_decide_eq_true himage)))
    · have hkept := ((hs.holds i).other hp).1 slot hslot hw
      rw [Option.mem_def.mp hseen, Option.any_some, himage] at hkept
      exact hstored hkept.symm
  · rw [Slot.commit_of_writer_ne hw]
    exact hnone slot hslot

/-- A call commits a gallery that is empty, or has a primary image. -/
theorem commit (hs : GalleryInv productId calls h phases) {emptied : Bool}
    (hphase : phases i = .committing emptied) :
    GalleryInv productId calls (h.commit i) (Function.update phases i .returned) := by
  have hholds := hs.holds i
  rw [hphase] at hholds
  have hkept (hp : (calls i).productId ≠ productId) :
      (h.commit i).committed.countP (isImageOf productId) =
          h.committed.countP (isImageOf productId) ∧
        (h.commit i).committed.countP (isPrimaryOf productId) =
          h.committed.countP (isPrimaryOf productId) :=
    ⟨(hholds.other hp).1.countP_commit, (hholds.other hp).2.countP_commit⟩
  refine hs.next Heap.preserves_commit hs.index.commit (fun j hne => ?_)
    (GalleryPhase.holds_of_unwritten Heap.unwritten_commit Heap.unwritten_commit) trivial
    (fun hsome => ?_) (fun h => by cases h) fun h => by cases h
  · refine (hs.holds j).same (Heap.same_commit hne) (fun hupload hj hcounted hsome => ?_)
      (fun hj hemptying hnone => hs.seen_commit_empty hne hphase hj hemptying hnone) (hs.fits j)
    by_cases hp : (calls i).productId = productId
    · cases emptied with
      | true =>
        have hnot := hs.apart j i hupload hj hcounted hp
        rw [hphase] at hnot
        cases hnot
      | false =>
        have hcommits : Commits productId (calls i) i h := hholds.own hp
        exact hcommits.hasPrimary hsome
    · rwa [HasPrimary, (hkept hp).2]
  · by_cases hp : (calls i).productId = productId
    · cases emptied with
      | true =>
        have hnone : (h.seen i).countP (isImageOf productId) = 0 := hholds.own hp
        rw [Heap.committed_commit, hnone] at hsome
        exact absurd hsome (Nat.lt_irrefl 0)
      | false =>
        have hcommits : Commits productId (calls i) i h := hholds.own hp
        exact hcommits.whole hs.whole hsome
    · rw [(hkept hp).1] at hsome
      rw [HasPrimary, (hkept hp).2]
      exact hs.whole hsome

/-- A statement that changes no row -/
theorem ahead (hs : GalleryInv productId calls s.images s.phases)
    (hown : (s.phases i).Own productId (calls i) i s.images →
      phase.Own productId (calls i) i s.images)
    (hfits : phase.Of (calls i) s.images)
    (hcount : phase.counted = true → (calls i).isUpload = false) (hempty : phase.emptying = false) :
    GalleryInv productId calls (s.setPhase i phase).images (s.setPhase i phase).phases :=
  hs.onward (.refl _) hs.index
    ⟨(hs.holds i).other, fun hp => hown ((hs.holds i).own hp), (hs.holds i).replaces⟩ hfits hcount
    hempty

/-- The same out of a phase that is known -/
theorem leave (hs : GalleryInv productId calls s.images s.phases) {phase' : GalleryPhase}
    (hphase : s.phases i = phase')
    (hown : phase'.Own productId (calls i) i s.images → phase.Own productId (calls i) i s.images)
    (hfits : phase.Of (calls i) s.images) (hcount : phase.counted = true → (calls i).isUpload = false)
    (hempty : phase.emptying = false) :
    GalleryInv productId calls (s.setPhase i phase).images (s.setPhase i phase).phases := by
  refine hs.ahead ?_ hfits hcount hempty
  rw [hphase]
  exact hown

theorem commits_of_keeps {call : GalleryCall} (himage : h.Keeps (isImageOf productId) i)
    (hprimary : h.Keeps (isPrimaryOf productId) i) : Commits productId call i h :=
  .inr ⟨fun slot hslot hw hstored => (hprimary slot hslot hw).trans hstored,
    .inr fun slot hslot hw hseen => (himage slot hslot hw).symm.trans hseen⟩

theorem transaction (hs : GalleryInv productId calls s.images s.phases) (i : ι)
    (hapart : Apart calls s (.statement i)) :
    GalleryInv productId calls (s.transaction (calls i).productId i).images
      (s.transaction (calls i).productId i).phases := by
  have hfits := hs.fits i
  have hfinds : s.Finds calls i (s.phases i) := hapart
  rw [GalleryState.transaction]
  cases hphase : s.phases i with
  | inserting rows =>
    dsimp only
    split
    · exact hs.fail i _
    · exact hs
    · exact hs.inserting hphase ‹_›
  | deleting imageId wasPrimary =>
    rw [hphase] at hfits
    exact hs.leave hphase id hfits (fun h => by cases h) rfl
  | deletingRows targets imageId wasPrimary =>
    rw [hphase] at hfinds
    dsimp only
    split
    · exact hs
    · rename_i hfree
      split
      · exact hs.fail i _
      · exact hs.deletingRows hphase (by simpa using hfree) hfinds
  | clearing imageId =>
    rw [hphase] at hfits
    exact hs.leave hphase id hfits (fun h => by cases h) rfl
  | clearingRows targets imageId =>
    dsimp only
    split
    · exact hs
    · rename_i hfree
      exact hs.clearingRows hphase (by simpa using hfree)
  | setting imageId =>
    rw [hphase] at hfits
    exact hs.leave hphase id hfits (fun h => by cases h) rfl
  | settingRows targets imageId =>
    dsimp only
    split
    · exact hs
    · rename_i hfree
      split
      · exact hs.fail i _
      · rename_i hchanges
        split
        · exact hs.fail i _
        · exact hs
        · exact hs.fail i _
        · rename_i hverdict
          obtain ⟨image, himage, hverdict⟩ := Option.map_eq_some_iff.mp hverdict
          exact hs.settingRows hphase (by simpa using hfree) (by simpa using hchanges) himage hverdict
  | editing edits =>
    rw [hphase] at hfits
    cases edits with
    | nil =>
      exact hs.leave hphase (fun hown => commits_of_keeps hown.1 hown.2) trivial (fun _ => hfits) rfl
    | cons edit edits => exact hs.leave hphase id hfits (fun h => by cases h) rfl
  | editingRows targets imageId data edits =>
    dsimp only
    split
    · exact hs
    · rename_i hfree
      split
      · exact hs.fail i _
      · exact hs.editingRows hphase (by simpa using hfree)
  | committing emptied => exact hs.commit hphase
  | _ => exact hs

theorem resolveProductId (hs : GalleryInv productId calls s.images s.phases)
    (hown : (s.phases i).Own productId (calls i) i s.images →
      phase.Own productId (calls i) i s.images)
    (hfits : phase.Of (calls i) s.images)
    (hcount : phase.counted = false) (hempty : phase.emptying = false) (product : String) :
    GalleryInv productId calls (s.resolveProductId product i phase).images
      (s.resolveProductId product i phase).phases := by
  rw [GalleryState.resolveProductId]
  split
  · exact hs.ahead hown hfits (fun h => absurd (h.symm.trans hcount) (by decide)) hempty
  · exact hs.fail i _

theorem has_of_imageOf (hs : GalleryInv productId calls s.images s.phases) {product imageId : String}
    {image : ProductImage} (h : s.imageOf product imageId i = some image) :
    s.images.Has ProductImage.productId imageId product := by
  obtain ⟨hfound, hproduct⟩ := Option.filter_eq_some_iff.mp h
  obtain ⟨slot, hslot, hseen⟩ := Option.bind_eq_some_iff.mp hfound
  have hmem := List.mem_of_find?_eq_some hslot
  obtain ⟨x, hx⟩ := hs.products slot hmem
  obtain rfl : image.productId = product := of_decide_eq_true hproduct
  refine ⟨slot, hmem, by simpa using List.find?_some hslot, ?_⟩
  rwa [hx.seen i image hseen]

end GalleryInv

theorem firstImage_mem {rank : String → ℕ} {images : List (String × ProductImage)}
    {next : String × ProductImage} (h : firstImage rank images = some next) : next ∈ images := by
  induction images with
  | nil => cases h
  | cons image images ih =>
    rw [firstImage] at h
    split at h
    · cases h
      exact List.mem_cons_self
    · rename_i hrest
      split at h
      · cases h
        exact List.mem_cons_of_mem _ (ih hrest)
      · cases h
        exact List.mem_cons_self

theorem firstImage_eq_none {rank : String → ℕ} {images : List (String × ProductImage)}
    (h : firstImage rank images = none) : images = [] := by
  cases images with
  | nil => rfl
  | cons image images =>
    rw [firstImage] at h
    split at h
    · cases h
    · split at h <;> cases h

theorem productId_of_mem_galleryRows {product : String} {sortOffset : ℤ} {hasPrimary : ℕ}
    {assets : List GalleryAsset} {row : ProductImage}
    (h : row ∈ galleryRows product sortOffset hasPrimary assets) : row.productId = product := by
  obtain ⟨asset, -, rfl⟩ := List.mem_map.mp h
  rfl

theorem galleryRows_any {product : String} {sortOffset : ℤ} {asset : GalleryAsset}
    {assets : List GalleryAsset} :
    (galleryRows product sortOffset 0 (asset :: assets)).any (isPrimaryOf product) = true := by
  rw [galleryRows, List.zipIdx_cons, List.map_cons, List.any_cons, Bool.or_eq_true]
  exact .inl (decide_eq_true ⟨rfl, rfl⟩)

theorem mem_gallery {product : String} {image : String × ProductImage} :
    image ∈ s.gallery product i ↔ (∃ slot ∈ s.images.slots, slot.key = image.1 ∧
      image.2 ∈ slot.seen i) ∧ image.2.productId = product := by
  rw [gallery, List.mem_filter, Heap.mem_entries, decide_eq_true_iff]

namespace GalleryInv

/-- An upload makes its first image primary where it has counted none. -/
theorem counting (hs : GalleryInv productId calls s.images s.phases) {product : String}
    {asset : GalleryAsset} {assets : List GalleryAsset} {sortOffset : ℤ}
    (hcall : calls i = .uploadGalleryImages product (.ok (asset :: assets)))
    (hphase : s.phases i = .counting sortOffset)
    (hfinds : s.Finds calls i (.counting sortOffset)) :
    GalleryInv productId calls s.images (Function.update s.phases i (.inserting
      (galleryRows product sortOffset ((s.images.seen i).countP (isPrimaryOf product))
        (asset :: assets)))) := by
  have hproduct : (calls i).productId = product := by rw [hcall]; rfl
  have hupload : (calls i).isUpload = true := by rw [hcall]; rfl
  have hholds := hs.holds i
  rw [hphase] at hholds
  refine hs.frame (.refl _) hs.index ⟨hholds.other, fun hown => ?_, hholds.replaces⟩
    ⟨hupload, fun row hrow => (productId_of_mem_galleryRows hrow).trans hproduct.symm⟩
    (fun _ _ hown j hj => hfinds j (hj.trans hown.symm)) fun h => by cases h
  have hunwritten : s.images.Unwritten i := hholds.own hown
  refine ⟨hunwritten, ?_⟩
  obtain rfl : product = productId := hproduct.symm.trans hown
  rw [hunwritten.seen_eq]
  rcases Nat.eq_zero_or_pos (s.images.committed.countP (isPrimaryOf product)) with hnone | hsome
  · rw [hnone]
    exact .inl galleryRows_any
  · exact .inr hsome

/-- A removal that finds no image to promote leaves an empty gallery. -/
theorem emptied (hs : GalleryInv productId calls s.images s.phases) {product : String}
    (hproduct : (calls i).productId = product) (hphase : s.phases i = .promoting)
    (hfinds : s.Finds calls i .promoting) (hnone : s.gallery product i = []) :
    GalleryInv productId calls s.images (Function.update s.phases i (.committing true)) := by
  have hholds := hs.holds i
  have hfits := hs.fits i
  rw [hphase] at hholds hfits
  refine hs.frame (.refl _) hs.index ⟨hholds.other, fun hown => ?_, hholds.replaces⟩ hfits
    (fun h => by cases h) fun _ hown j hupload hj => ?_
  · obtain rfl : product = productId := hproduct.symm.trans hown
    show (s.images.seen i).countP (isImageOf product) = 0
    rw [Heap.countP_seen, List.countP_eq_zero]
    intro slot hslot himage
    obtain ⟨image, hseen, himage⟩ := (Option.any_eq_true _ _).mp himage
    have hmem : (slot.key, image) ∈ s.gallery product i :=
      mem_gallery.mpr ⟨⟨slot, hslot, rfl, hseen⟩, of_decide_eq_true himage⟩
    rw [hnone] at hmem
    cases hmem
  · refine hfinds ?_ j hupload (hj.trans hown.symm)
    rw [hproduct, hnone]
    rfl

theorem begin (hs : GalleryInv productId calls s.images s.phases) (hphase : s.phases i = .start)
    (product : String) :
    GalleryInv productId calls (s.resolveProductId product i .finding).images
      (s.resolveProductId product i .finding).phases := by
  have hfits : GalleryPhase.finding.Of (calls i) s.images := trivial
  refine hs.resolveProductId ?_ hfits rfl rfl product
  rw [hphase]
  exact id

theorem uploadGalleryImages (hs : GalleryInv productId calls s.images s.phases) {product : String}
    {uploaded : Except String (List GalleryAsset)}
    (hcall : calls i = .uploadGalleryImages product uploaded)
    (hapart : Apart calls s (.statement i))
    (hrest : GalleryInv productId calls (s.transaction product i).images
      (s.transaction product i).phases) :
    GalleryInv productId calls (s.uploadGalleryImages product uploaded i).images
      (s.uploadGalleryImages product uploaded i).phases := by
  have hfits := hs.fits i
  have hfinds : s.Finds calls i (s.phases i) := hapart
  rw [GalleryState.uploadGalleryImages.eq_def]
  cases hphase : s.phases i with
  | start =>
    dsimp only
    split
    · exact hs.fail i _
    · rename_i hfiles
      refine hs.resolveProductId ?_ ?_ rfl rfl product
      · rw [hphase]
        exact id
      · rw [hcall]
        cases uploaded with
        | error message => rfl
        | ok assets =>
          cases assets with
          | nil => exact absurd rfl hfiles
          | cons asset assets => rfl
  | storing =>
    rw [hphase] at hfits
    dsimp only
    split
    · exact hs.fail i _
    · exact hs.leave hphase id hfits (fun h => by cases h) rfl
  | locking =>
    rw [hphase] at hfits
    dsimp only
    split
    · exact hs.leave hphase id hfits (fun h => by cases h) rfl
    · exact hs
  | measuring =>
    rw [hphase] at hfits
    exact hs.leave hphase id hfits (fun h => by cases h) rfl
  | counting sortOffset =>
    rw [hphase] at hfits hfinds
    dsimp only
    split
    · exact hs
    · rename_i assets
      cases assets with
      | nil =>
        have hfiles : (calls i).hasFiles = true := hfits
        rw [hcall] at hfiles
        cases hfiles
      | cons asset assets => exact hs.counting hcall hphase hfinds
  | _ => exact hrest

theorem removeGalleryImage (hs : GalleryInv productId calls s.images s.phases)
    {product imageId : String} {rank : String → ℕ}
    (hcall : calls i = .removeGalleryImage product imageId rank)
    (hapart : Apart calls s (.statement i))
    (hrest : GalleryInv productId calls (s.transaction product i).images
      (s.transaction product i).phases) :
    GalleryInv productId calls (s.removeGalleryImage product imageId rank i).images
      (s.removeGalleryImage product imageId rank i).phases := by
  have hproduct : (calls i).productId = product := by rw [hcall]; rfl
  have hremoves : (calls i).isUpload = false := by rw [hcall]; rfl
  have hfinds : s.Finds calls i (s.phases i) := hapart
  rw [GalleryState.removeGalleryImage.eq_def]
  cases hphase : s.phases i with
  | start => exact hs.begin hphase product
  | finding =>
    dsimp only
    split
    · exact hs.fail i _
    · rename_i image himage
      exact hs.leave hphase id ⟨hremoves, hproduct ▸ hs.has_of_imageOf himage⟩
        (fun h => by cases h) rfl
  | promoting =>
    rw [hphase] at hfinds
    dsimp only
    split
    · rename_i hnone
      exact hs.emptied hproduct hphase hfinds (firstImage_eq_none hnone)
    · rename_i next hnext
      obtain ⟨⟨slot, hslot, hkey, hseen⟩, hnext⟩ := mem_gallery.mp (firstImage_mem hnext)
      obtain ⟨x, hx⟩ := hs.products slot hslot
      obtain rfl : x = product := (hx.seen i next.2 hseen).symm.trans hnext
      exact hs.leave hphase id ⟨hremoves, slot, hslot, hkey, hproduct ▸ hx⟩
        (fun h => by cases h) rfl
  | _ => exact hrest

theorem reorderGalleryImages (hs : GalleryInv productId calls s.images s.phases) {product : String}
    {orderedIds : List String} (hcall : calls i = .reorderGalleryImages product orderedIds)
    (hrest : GalleryInv productId calls (s.transaction product i).images
      (s.transaction product i).phases) :
    GalleryInv productId calls (s.reorderGalleryImages product orderedIds i).images
      (s.reorderGalleryImages product orderedIds i).phases := by
  rw [GalleryState.reorderGalleryImages.eq_def]
  cases hphase : s.phases i with
  | start => exact hs.begin hphase product
  | finding =>
    dsimp only
    split
    · exact hs.fail i _
    · exact hs.leave hphase (fun hu => ⟨hu.keeps, hu.keeps⟩) (by rw [hcall]; rfl)
        (fun h => by cases h) rfl
  | _ => exact hrest

theorem setPrimaryImage (hs : GalleryInv productId calls s.images s.phases)
    {product imageId : String} (hcall : calls i = .setPrimaryImage product imageId)
    (hrest : GalleryInv productId calls (s.transaction product i).images
      (s.transaction product i).phases) :
    GalleryInv productId calls (s.setPrimaryImage product imageId i).images
      (s.setPrimaryImage product imageId i).phases := by
  have hproduct : (calls i).productId = product := by rw [hcall]; rfl
  rw [GalleryState.setPrimaryImage.eq_def]
  cases hphase : s.phases i with
  | start => exact hs.begin hphase product
  | finding =>
    dsimp only
    split
    · exact hs.fail i _
    · rename_i image himage
      exact hs.leave hphase id ⟨by rw [hcall]; rfl, hproduct ▸ hs.has_of_imageOf himage⟩
        (fun h => by cases h) rfl
  | _ => exact hrest

theorem updateImageMeta (hs : GalleryInv productId calls s.images s.phases)
    {product imageId : String} {data : UpdateImageMeta}
    (hcall : calls i = .updateImageMeta product imageId data)
    (hrest : GalleryInv productId calls (s.transaction product i).images
      (s.transaction product i).phases) :
    GalleryInv productId calls (s.updateImageMeta product imageId data i).images
      (s.updateImageMeta product imageId data i).phases := by
  rw [GalleryState.updateImageMeta.eq_def]
  cases hphase : s.phases i with
  | start => exact hs.begin hphase product
  | finding =>
    dsimp only
    split
    · exact hs.fail i _
    · exact hs.leave hphase (fun hu => ⟨hu.keeps, hu.keeps⟩) (by rw [hcall]; rfl)
        (fun h => by cases h) rfl
  | _ => exact hrest

theorem statement (hs : GalleryInv productId calls s.images s.phases) (i : ι)
    (hapart : Apart calls s (.statement i)) :
    GalleryInv productId calls (s.statement (calls i) i).images
      (s.statement (calls i) i).phases := by
  have hrest := hs.transaction i hapart
  cases hcall : calls i with
  | uploadGalleryImages product uploaded =>
    rw [hcall] at hrest
    exact hs.uploadGalleryImages hcall hapart hrest
  | removeGalleryImage product imageId rank =>
    rw [hcall] at hrest
    exact hs.removeGalleryImage hcall hapart hrest
  | reorderGalleryImages product orderedIds =>
    rw [hcall] at hrest
    exact hs.reorderGalleryImages hcall hrest
  | setPrimaryImage product imageId =>
    rw [hcall] at hrest
    exact hs.setPrimaryImage hcall hrest
  | updateImageMeta product imageId data =>
    rw [hcall] at hrest
    exact hs.updateImageMeta hcall hrest

theorem step (hs : GalleryInv productId calls s.images s.phases) (e : GalleryEvent ι)
    (hapart : Apart calls s e) :
    GalleryInv productId calls (s.step calls e).images (s.step calls e).phases := by
  cases e with
  | statement i => exact hs.statement i hapart
  | abort i =>
    rw [GalleryState.step]
    split
    · exact hs
    · exact hs.fail i _

end GalleryInv

theorem countP_onePrimary (images : List ProductImage) :
    images.countP (fun r => r.onePrimary = some productId) =
      images.countP (isPrimaryOf productId) := by
  refine List.countP_congr fun r _ => ?_
  rw [isPrimaryOf_iff, decide_eq_true_iff, ProductImage.onePrimary]
  cases r.isPrimary <;> simp

theorem eachPrimary_of_inv (hs : ∀ productId, GalleryInv productId calls s.images s.phases) :
    s.EachPrimary := by
  intro productId hsome
  obtain ⟨image, himage, hproduct⟩ := hsome
  refine Nat.le_antisymm ?_ ((hs productId).whole ?_)
  · rw [primaries, ← countP_onePrimary]
    exact (hs productId).index.countP_le_one productId
  · exact List.countP_pos_iff.mpr ⟨image, himage, decide_eq_true hproduct⟩

theorem GalleryState.Fresh.inv (hfresh : s.Fresh) (hprimary : s.EachPrimary) (productId : String) :
    GalleryInv productId calls s.images s.phases where
  products slot hslot := by
    refine ⟨slot.stored.elim "" ProductImage.productId, fun r hr => ?_, fun change hchange => ?_⟩
    · rw [Option.mem_def.mp hr]
      rfl
    · rw [hfresh.rows slot hslot] at hchange
      cases hchange
  index := by
    refine Heap.indexed_of_countP hfresh.rows fun product => ?_
    rw [countP_onePrimary]
    by_cases hsome : ∃ image ∈ s.images.committed, image.productId = product
    · exact Nat.le_of_eq (hprimary product hsome)
    · rw [List.countP_eq_zero.mpr fun image himage hand =>
        hsome ⟨image, himage, (isPrimaryOf_iff.mp hand).1⟩]
      exact Nat.zero_le 1
  fits i := by
    rw [hfresh.phases i]
    trivial
  holds i := by
    have hunwritten : s.images.Unwritten i := fun slot hslot hw => by
      rw [Slot.writer, hfresh.rows slot hslot] at hw
      cases hw
    rw [hfresh.phases i]
    exact GalleryPhase.holds_of_unwritten hunwritten hunwritten
  whole hsome := by
    obtain ⟨image, himage, hproduct⟩ := List.countP_pos_iff.mp hsome
    have hone := hprimary productId ⟨image, himage, of_decide_eq_true hproduct⟩
    exact Nat.lt_of_lt_of_eq Nat.zero_lt_one hone.symm
  apart i j _ _ hcounted := by
    rw [hfresh.phases i] at hcounted
    cases hcounted

end steps

/-- In runs in which no removal deletes a primary image that it has not read as primary, and none
empties a gallery while an upload has counted, or counts, the primary images of it, a gallery
that is not empty has one primary image in every committed state. -/
theorem one_primary_image {ι : Type} [DecidableEq ι] (calls : ι → GalleryCall)
    (s : GalleryState ι) (hfresh : s.Fresh) (hprimary : s.EachPrimary)
    (events : List (GalleryEvent ι))
    (h : Along (GalleryState.step calls) (Apart calls) s events) :
    Throughout (GalleryState.step calls) EachPrimary s events := by
  have hinv : Throughout (GalleryState.step calls)
      (fun s => ∀ productId, GalleryInv productId calls s.images s.phases) s events :=
    h.throughout (fun s e hs hapart productId => (hs productId).step e hapart)
      fun productId => hfresh.inv hprimary productId
  exact hinv.imp fun s hs => eachPrimary_of_inv hs

def galleryStatements {ι : Type} (i : ι) (n : ℕ) : List (GalleryEvent ι) :=
  List.replicate n (.statement i)

def emptyGallery : GalleryState (Option Bool) where
  products := ["oven"]
  images := ⟨[], List.nodup_nil⟩

/-- Two images, of which the first is removed while the second becomes primary. -/
def ovenPictures : Option Bool → GalleryCall
  | none => .uploadGalleryImages "oven"
      (.ok [⟨1, "a", "a.png", "a", none⟩, ⟨2, "b", "b.png", "b", none⟩])
  | some true => .removeGalleryImage "oven" "a" fun _ => 0
  | some false => .setPrimaryImage "oven" "b"

def ovenPictured : List (GalleryEvent (Option Bool)) :=
  galleryStatements none 8 ++ galleryStatements (some true) 2 ++ galleryStatements (some false) 7 ++
    galleryStatements (some true) 6

theorem ovenPictured_one_primary :
    Throughout (GalleryState.step ovenPictures) EachPrimary emptyGallery ovenPictured :=
  one_primary_image ovenPictures emptyGallery ⟨fun _ => rfl, fun _ hslot => by cases hslot⟩
    (fun _ hsome => by
      obtain ⟨image, himage, -⟩ := hsome
      cases himage) ovenPictured (by decide +kernel)

/-- A gallery of a primary image and another one -/
def twoPictures : Heap Bool String ProductImage where
  slots :=
    [{ key := "a"
       stored := some { id := 1, imageId := "a", productId := "oven", isPrimary := true } },
      { key := "b"
        stored := some { id := 2, imageId := "b", productId := "oven", sortOrder := 1 } }]
  unique := by decide

/-- The image that is removed becomes primary after the removal has read it. -/
def primaryWhileRemoved : Bool → GalleryCall
  | true => .removeGalleryImage "oven" "b" fun _ => 0
  | false => .setPrimaryImage "oven" "b"

/-- The primary image that an upload has counted is the last one, and is removed. -/
def uploadedWhileRemoved : Bool → GalleryCall
  | true => .removeGalleryImage "oven" "a" fun _ => 0
  | false => .uploadGalleryImages "oven" (.ok [⟨3, "c", "c.png", "c", none⟩])

def removedUnread : GalleryState Bool :=
  run (GalleryState.step primaryWhileRemoved) { products := ["oven"], images := twoPictures }
    (galleryStatements true 2 ++ galleryStatements false 7 ++ galleryStatements true 3)

def removedCounted : GalleryState Bool :=
  run (GalleryState.step uploadedWhileRemoved)
    { products := ["oven"]
      images := { slots := twoPictures.slots.take 1, unique := List.nodup_singleton "a" } }
    (galleryStatements false 5 ++ galleryStatements true 6 ++ galleryStatements false 2)

theorem gallery_without_primary :
    twoPictures.committed.countP (isPrimaryOf "oven") = 1 ∧
      (∀ i, (removedUnread.phases i).ended = true) ∧
      removedUnread.images.committed.map ProductImage.imageId = ["a"] ∧
      removedUnread.primaries "oven" = 0 ∧
      (∀ i, (removedCounted.phases i).ended = true) ∧
      removedCounted.images.committed.map ProductImage.imageId = ["c"] ∧
      removedCounted.primaries "oven" = 0 := by
  decide +kernel

end InstalFlow
