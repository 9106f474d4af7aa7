import InstalFlow.DerivedStock
import InstalFlow.KycOffers

/-!
# Products taken out of the catalogue

A product in DRAFT or ARCHIVED is neither listed nor searched, and no application for it is
accepted. The figures of its variants bring a status with them, though, and so an operation
on a variant brings the product back.
-/

namespace InstalFlow
open Relational Transition ProductService

def ProductStatus.hidden : ProductStatus → Bool
  | .draft | .archived => true
  | .published | .soldOut => false

/-- The database, and the status last set for a product -/
structure LifecycleState where
  db : Database
  chosen : Option ProductStatus

def lifecycleStep (productId : String) (s : LifecycleState) (e : CatalogueStep) :
    LifecycleState where
  db := e.apply s.db
  chosen := (e.chooses? productId s.db).or s.chosen

/-- A product of a status is in no listing but one asked for that status, found by no search and
not applied for. -/
structure Hidden (productId : String) (kept : ProductStatus) (db : Database) : Prop where
  status : ∀ p ∈ db.products.find? productId, p.status = kept
  unlisted : ∀ requested companyId inCategory, requested ≠ some kept →
    ∀ p ∈ getAllProducts requested companyId inCategory db, p.productId ≠ productId
  unsearched : ∀ found, ∀ p ∈ searchProducts found db, p.productId ≠ productId
  refused : ∀ storage sessionId params file m, params.productId = productId →
    (KycService.submitApplication storage sessionId params file m db).isOk = false

def StaysHidden (productId : String) (s : LifecycleState) : Prop :=
  ∀ status ∈ s.chosen, status.hidden = true → Hidden productId status s.db

/-- An operation on a variant of a hidden product leaves no variant active. -/
def ShowsNothing (productId : String) (s : LifecycleState) (e : CatalogueStep) : Prop :=
  s.chosen.any ProductStatus.hidden = true → e.syncs? s.db = some productId →
    (e.result s.db).isOk = true → activeVariants productId (e.apply s.db) = []

instance (productId : String) (s : LifecycleState) (e : CatalogueStep) :
    Decidable (ShowsNothing productId s e) := inferInstanceAs (Decidable (_ → _ → _ → _))

section hidden
variable {productId : String} {status : ProductStatus} {db : Database}

/-- Everything else follows from the status. -/
theorem hidden_iff (hhidden : status.hidden = true) : Hidden productId status db ↔
    ∀ p ∈ db.products.find? productId, p.status = status := by
  refine ⟨Hidden.status, fun h => ?_⟩
  have hrow : ∀ p ∈ db.products.rows, p.productId = productId → p.status = status :=
    fun p hp hid => h p (hid ▸ Table.find?_of_mem hp)
  refine ⟨h, fun requested companyId inCategory hother p hp hid => ?_, fun found p hp hid => ?_,
    fun storage sessionId params file m hproduct => ?_⟩
  · obtain ⟨hmem, hlisted⟩ := List.mem_filter.mp hp
    have hstatus := (of_decide_eq_true hlisted).1
    rw [hrow p hmem hid] at hstatus
    cases requested with
    | none =>
      rw [hstatus] at hhidden
      cases hhidden
    | some requested => exact hother (congrArg some hstatus.symm)
  · obtain ⟨hmem, hfound⟩ := List.mem_filter.mp hp
    have hstatus := (of_decide_eq_true hfound).1
    rw [← hrow p hmem hid, hstatus] at hhidden
    cases hhidden
  · rw [← Bool.not_eq_true, isOk_iff]
    rintro ⟨⟨application, db'⟩, hsubmit⟩
    obtain ⟨session, plan, variant, applications, contracts, assets, trail, -, hoffer, -⟩ :=
      KycService.submitApplication_eq_ok hsubmit
    obtain ⟨-, -, -, -, p, hp, hstatus⟩ := findOffer_eq_ok hoffer
    rw [h p (hproduct ▸ hp)] at hstatus
    rcases hstatus with hstatus | hstatus <;> rw [hstatus] at hhidden <;> cases hhidden

end hidden

section steps
variable {productId : String} {s : LifecycleState} {e : CatalogueStep}

/-- Only an operation that recomputes the figures from active variants shows the product. -/
theorem staysHidden_step_iff (hs : StaysHidden productId s) (e : CatalogueStep) :
    StaysHidden productId (lifecycleStep productId s e) ↔ ShowsNothing productId s e := by
  rcases e.apply_cases productId s.db with
    ⟨db₁, hchanges, hsync, hok, hexists, happly⟩ | ⟨hrefused, -, g, hsets⟩
  · have hchosen : (lifecycleStep productId s e).chosen = s.chosen := by
      rw [lifecycleStep, CatalogueStep.chooses?_of_sync hsync, Option.none_or]
    have hactive : activeVariants productId (e.apply s.db) = activeVariants productId db₁ := by
      rw [happly, activeVariants_congr syncStats_productVariants]
    by_cases hnil : activeVariants productId db₁ = []
    · refine iff_of_true (fun status hstatus hhidden => ?_) fun _ _ _ => hactive.trans hnil
      rw [hchosen] at hstatus
      refine (hidden_iff hhidden).mpr ?_
      rw [lifecycleStep, happly, syncStats_eq_self hnil, hchanges.products_eq]
      exact (hs status hstatus hhidden).status
    · obtain ⟨f, hf, hdb, hshows⟩ := syncStats_eq_update hnil
      obtain ⟨p, hp⟩ := Option.isSome_iff_exists.mp hexists
      have hfind : (lifecycleStep productId s e).db.products.find? productId = some (f p) := by
        rw [lifecycleStep, happly, hdb]
        refine (Table.find?_update db₁.products productId productId f hf).trans ?_
        rw [if_pos rfl, hchanges.products_eq, hp, Option.map_some]
      have hshown : (f p).status.hidden = false := by
        rcases (hshows p).2 with hstatus | hstatus <;> rw [hstatus] <;> rfl
      constructor
      · intro hafter hany
        obtain ⟨status, hstatus, hhidden⟩ := (Option.any_eq_true _ _).mp hany
        rw [← (hafter status (hchosen.trans hstatus) hhidden).status (f p) hfind, hshown] at hhidden
        cases hhidden
      · intro hnothing status hstatus hhidden
        rw [hchosen] at hstatus
        have hany : s.chosen.any ProductStatus.hidden = true :=
          (Option.any_eq_true _ _).mpr ⟨status, hstatus, hhidden⟩
        exact absurd (hactive.symm.trans (hnothing hany hsync hok)) hnil
  · refine iff_of_true ?_ fun _ hsync hok => absurd hok (by rw [hrefused hsync]; decide)
    intro status hchosen hhidden
    refine (hidden_iff hhidden).mpr fun p' hp' => ?_
    rw [lifecycleStep, hsets.product] at hp'
    obtain ⟨p, hp, rfl⟩ := Option.map_eq_some_iff.mp hp'
    rw [hsets.status]
    cases hchoice : e.chooses? productId s.db with
    | some status' =>
      rw [lifecycleStep, hchoice, Option.some_or] at hchosen
      exact Option.some.inj hchosen
    | none =>
      rw [lifecycleStep, hchoice, Option.none_or] at hchosen
      exact (hs status hchosen hhidden).status p hp

end steps

/-- A product stays in DRAFT or ARCHIVED along exactly those runs in which what is done to its
variants meanwhile leaves none of them active. -/
theorem stays_hidden_throughout_iff (productId : String) (s : LifecycleState)
    (hs : StaysHidden productId s) (steps : List CatalogueStep) :
    Throughout (lifecycleStep productId) (StaysHidden productId) s steps ↔
      Along (lifecycleStep productId) (ShowsNothing productId) s steps :=
  throughout_iff_along (I := fun _ => True) (fun _ e _ hs => staysHidden_step_iff hs e)
    (fun _ _ _ _ => trivial) trivial hs

/-- A draft gets its variant, is published, sold out and archived. -/
def archivedEmpty : List CatalogueStep :=
  [.addVariant ⟨⟨"red", 20, some 3, some false, []⟩, "kettle"⟩ shopkeeper "v₁",
    .updateProduct "kettle" { status := some .published } shopkeeper,
    .deactivateVariant "v₁" true shopkeeper, .deactivateVariant "v₁" false shopkeeper,
    .deleteProduct "kettle" shopkeeper, .updateVariantStock "v₁" 5 shopkeeper]

theorem archivedEmpty_hidden :
    Throughout (lifecycleStep "kettle") (StaysHidden "kettle") ⟨emptyShelf, some .draft⟩
      archivedEmpty := by
  refine (stays_hidden_throughout_iff "kettle" _ (fun status hstatus hhidden => ?_) _).mpr
    (by decide +kernel)
  obtain rfl := Option.some.inj hstatus
  exact (hidden_iff hhidden).mpr (by decide)

/-- New stock puts an archived product back into the catalogue. -/
def restocked : List CatalogueStep :=
  [.addVariant ⟨⟨"red", 20, some 3, none, []⟩, "kettle"⟩ shopkeeper "v₁",
    .deleteProduct "kettle" shopkeeper, .updateVariantStock "v₁" 5 shopkeeper]

theorem restocked_listed :
    (run (lifecycleStep "kettle") ⟨emptyShelf, none⟩ restocked).chosen = some .archived ∧
    (getAllProducts none none (fun _ => true)
      (run (lifecycleStep "kettle") ⟨emptyShelf, none⟩ restocked).db).map Product.productId =
        ["kettle"] ∧
    ¬ Throughout (lifecycleStep "kettle") (StaysHidden "kettle") ⟨emptyShelf, none⟩ restocked := by
  have hchosen : (run (lifecycleStep "kettle") ⟨emptyShelf, none⟩ restocked).chosen =
      some .archived := by decide +kernel
  refine ⟨hchosen, by decide +kernel, fun h => ?_⟩
  have hstatus := (h.last .archived hchosen rfl).status
  exact absurd hstatus (by decide +kernel)

end InstalFlow
