import InstalFlow.ProductCatalogue
import InstalFlow.Transition.Run

/-!
# The figures of a product

Whatever is done to the variants of a product, its prices and stock are those of the
active ones. Where the last of these goes, though, nothing is recomputed, and the stock
stays that of the variants that were.
-/

namespace InstalFlow
open Relational Transition ProductService

/-- The database, and whether the stock a product shows is that of variants -/
structure CatalogueState where
  db : Database
  derived : Bool

def catalogueStep (productId : String) (s : CatalogueState) (e : CatalogueStep) :
    CatalogueState where
  db := e.apply s.db
  derived :=
    if (activeVariants productId (e.apply s.db)).isEmpty then
      s.derived && !e.setsStock productId s.db
    else true

/-- A product shows the figures of its active variants, and without one no stock of those it
had. -/
structure FollowsVariants (productId : String) (s : CatalogueState) : Prop where
  shows_active : activeVariants productId s.db ≠ [] →
    ∀ p ∈ s.db.products.find? productId, ShowsVariants (activeVariants productId s.db) p
  empty : activeVariants productId s.db = [] → s.derived = true →
    ∀ p ∈ s.db.products.find? productId, p.stockQuantity = 0

/-- An operation that takes the last active variant away finds no stock. -/
def LeavesNoStock (productId : String) (db : Database) (e : CatalogueStep) : Prop :=
  activeVariants productId db ≠ [] → activeVariants productId (e.apply db) = [] →
    ∀ p ∈ db.products.find? productId, p.stockQuantity = 0

instance (productId : String) (db : Database) (e : CatalogueStep) :
    Decidable (LeavesNoStock productId db e) := inferInstanceAs (Decidable (_ → _ → _))

section steps
variable {productId : String} {s : CatalogueState} {e : CatalogueStep}

theorem ShowsVariants.of_same {variants : List ProductVariant} {p p' : Product}
    (h : ShowsVariants variants p) (hstock : p'.stockQuantity = p.stockQuantity)
    (hprice : p'.price = p.price) (hmin : p'.minPrice = p.minPrice)
    (hmax : p'.maxPrice = p.maxPrice) : ShowsVariants variants p' :=
  ⟨hstock.trans h.stock, by rw [hprice]; exact h.price, by rw [hmin, hprice]; exact h.minPrice,
    by rw [hmax]; exact h.maxPrice⟩

theorem derived_catalogueStep_of_empty
    (h : activeVariants productId (catalogueStep productId s e).db = []) :
    (catalogueStep productId s e).derived = (s.derived && !e.setsStock productId s.db) := by
  have h : activeVariants productId (e.apply s.db) = [] := h
  rw [catalogueStep, h]
  rfl

theorem derived_catalogueStep_of_active
    (h : activeVariants productId (catalogueStep productId s e).db ≠ []) :
    (catalogueStep productId s e).derived = true :=
  if_neg fun he => h (List.isEmpty_iff.mp he)

/-- Only an operation that takes the last active variant away can leave stock behind. -/
theorem follows_step_iff (hI : activeVariants productId s.db ≠ [] → s.derived = true)
    (hs : FollowsVariants productId s) (e : CatalogueStep) :
    FollowsVariants productId (catalogueStep productId s e) ↔ LeavesNoStock productId s.db e := by
  rcases e.apply_cases productId s.db with
    ⟨db₁, hchanges, hsync, -, -, happly⟩ | ⟨-, hactive, g, hsets⟩
  · have hactive : activeVariants productId (e.apply s.db) = activeVariants productId db₁ := by
      rw [happly, activeVariants_congr syncStats_productVariants]
    by_cases hnil : activeVariants productId db₁ = []
    · have hdb : (catalogueStep productId s e).db = db₁ := happly.trans (syncStats_eq_self hnil)
      have hderived := derived_catalogueStep_of_empty (s := s) (e := e) (hactive.trans hnil)
      rw [CatalogueStep.setsStock_of_sync hsync, Bool.not_false, Bool.and_true] at hderived
      have hproducts : (catalogueStep productId s e).db.products = s.db.products := by
        rw [hdb, hchanges.products_eq]
      constructor
      · intro hafter hne _ p hp
        exact hafter.empty (hactive.trans hnil) (hderived.trans (hI hne)) p (hproducts ▸ hp)
      · intro hleaves
        refine ⟨fun hne => absurd (hactive.trans hnil) hne, fun _ hwas p hp => ?_⟩
        rw [hproducts] at hp
        by_cases hbefore : activeVariants productId s.db = []
        · exact hs.empty hbefore (hderived.symm.trans hwas) p hp
        · exact hleaves hbefore (hactive.trans hnil) p hp
    · obtain ⟨f, hf, hdb, hshows⟩ := syncStats_eq_update hnil
      refine iff_of_true ⟨fun _ p' hp' => ?_, fun he => absurd (hactive.symm.trans he) hnil⟩
        fun _ he => absurd (hactive.symm.trans he) hnil
      have hfind : (catalogueStep productId s e).db.products.find? productId =
          (db₁.products.find? productId).map f := by
        rw [catalogueStep, happly, hdb]
        exact (Table.find?_update db₁.products productId productId f hf).trans (if_pos rfl)
      rw [hfind] at hp'
      obtain ⟨p, -, rfl⟩ := Option.map_eq_some_iff.mp hp'
      rw [catalogueStep, hactive]
      exact (hshows p).1
  · refine iff_of_true ?_ fun hne he => absurd (hactive.symm.trans he) hne
    refine ⟨fun hne p' hp' => ?_, fun hnil hderived p' hp' => ?_⟩
    · rw [catalogueStep, hactive] at hne ⊢
      rw [catalogueStep, hsets.product] at hp'
      obtain ⟨p, hp, rfl⟩ := Option.map_eq_some_iff.mp hp'
      obtain ⟨hstock, hprice, hmin, hmax⟩ := hsets.figures hne p
      exact (hs.shows_active hne p hp).of_same hstock hprice hmin hmax
    · rw [derived_catalogueStep_of_empty hnil, Bool.and_eq_true, Bool.not_eq_true'] at hderived
      rw [catalogueStep, hsets.product] at hp'
      obtain ⟨p, hp, rfl⟩ := Option.map_eq_some_iff.mp hp'
      rw [hsets.stock hderived.2]
      exact hs.empty (hactive.symm.trans hnil) hderived.1 p hp

end steps

/-- A product follows its variants along exactly those runs in which whatever takes the last
active variant away finds no stock. -/
theorem follows_variants_throughout_iff (productId : String) (s : CatalogueState)
    (hI : activeVariants productId s.db ≠ [] → s.derived = true)
    (hs : FollowsVariants productId s) (steps : List CatalogueStep) :
    Throughout (catalogueStep productId) (FollowsVariants productId) s steps ↔
      Along (catalogueStep productId) (fun s e => LeavesNoStock productId s.db e) s steps :=
  throughout_iff_along (I := fun s => activeVariants productId s.db ≠ [] → s.derived = true)
    (fun _ e hI hs => follows_step_iff hI hs e)
    (fun _ _ _ _ hne => derived_catalogueStep_of_active hne) hI hs

/-- A product of a shop, without variants yet -/
def emptyShelf : Database where
  products := ⟨[{ productId := "kettle", companyId := some "shop" }], by decide⟩

def shopkeeper : CatalogueCaller := ⟨some "shop", some .company⟩

/-- Two variants; the first is taken off with its stock, the second when it is sold out. -/
def soldOutLast : List CatalogueStep :=
  [.addVariant ⟨⟨"red", 20, some 3, none, []⟩, "kettle"⟩ shopkeeper "v₁",
    .addVariant ⟨⟨"blue", 30, some 2, none, []⟩, "kettle"⟩ shopkeeper "v₂",
    .deactivateVariant "v₁" false shopkeeper, .updateVariantStock "v₂" 0 shopkeeper,
    .removeVariant "v₂" shopkeeper]

theorem emptyShelf_follows : FollowsVariants "kettle" ⟨emptyShelf, false⟩ :=
  ⟨fun hne => absurd (by decide) hne, fun _ hderived => absurd hderived Bool.false_ne_true⟩

theorem soldOutLast_followed :
    Throughout (catalogueStep "kettle") (FollowsVariants "kettle") ⟨emptyShelf, false⟩
      soldOutLast :=
  (follows_variants_throughout_iff "kettle" _ (fun hne => absurd (by decide) hne)
    emptyShelf_follows _).mpr (by decide +kernel)

/-- Three kettles are shown when the only variant has been taken off. -/
theorem three_left_over :
    (∀ p ∈ (run (catalogueStep "kettle") ⟨emptyShelf, false⟩ (soldOutLast.take 1 ++
        [.deactivateVariant "v₁" false shopkeeper])).db.products.find? "kettle",
      p.stockQuantity = 3) ∧
    ¬ Throughout (catalogueStep "kettle") (FollowsVariants "kettle") ⟨emptyShelf, false⟩
      (soldOutLast.take 1 ++ [.deactivateVariant "v₁" false shopkeeper]) := by
  refine ⟨by decide +kernel, fun h => ?_⟩
  have hzero := h.last.empty (by decide +kernel) (by decide +kernel)
  exact absurd hzero (by decide +kernel)

end InstalFlow
