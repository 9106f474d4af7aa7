import InstalFlow.ProductListing

/-!
# Searching the catalogue

The search pages the products that match the text, and asks for the prices of a page only when
the page is cut. The count knows nothing of the prices, and of two bounds the query keeps the
upper one.
-/

namespace InstalFlow
open Relational

structure SearchQuery where
  search : String
  page : ℕ := 1
  limit : ℕ := 10
  minPrice : Option ℚ := none
  maxPrice : Option ℚ := none

/-- What the text index answers: whether a product matches a query, and at what rank -/
structure TextIndex where
  isMatch : String → Product → Bool
  rank : String → Product → ℚ

structure SearchPagination where
  total : ℕ
  totalPages : ℕ
  currentPage : ℕ
  limit : ℕ
  hasNextPage : Bool
  hasPreviousPage : Bool

structure SearchPage where
  products : List ProductDetails
  pagination : SearchPagination

namespace ProductListing
variable (index : TextIndex) (tie : String → ℕ)

/-- The `WHERE` of both statements -/
def Matches (search : String) (p : Product) : Prop :=
  p.status = .published ∧ index.isMatch search p

instance (search : String) : DecidablePred (Matches index search) := fun _ =>
  inferInstanceAs (Decidable (_ ∧ _))

/-- `ORDER BY rank DESC`, where `tie` is the order of products of one rank -/
def Outranks (search : String) (p q : Product) : Prop :=
  index.rank search q < index.rank search p ∨
    index.rank search p = index.rank search q ∧ tie p.productId ≤ tie q.productId

instance (search : String) : DecidableRel (Outranks index tie search) := fun _ _ =>
  inferInstanceAs (Decidable (_ ∨ _))

def ranked (search : String) (db : Database) : List Product :=
  (db.products.rows.filter (Matches index search)).insertionSort (Outranks index tie search)

/-- The second `price` key of the query takes the place of the first. -/
def PriceClause (query : SearchQuery) (p : Product) : Prop :=
  (∀ maxPrice ∈ query.maxPrice, p.price ≤ maxPrice) ∧
    (query.maxPrice = none → ∀ minPrice ∈ query.minPrice, minPrice ≤ p.price)

instance (query : SearchQuery) : DecidablePred (PriceClause query) := fun _ =>
  inferInstanceAs (Decidable ((∀ maxPrice ∈ query.maxPrice, _) ∧
    (_ → ∀ minPrice ∈ query.minPrice, _)))

/-- The place of a product on its page, from `rankOrder` -/
def placeOf (matchedIds : List String) (d : ProductDetails) : ℕ :=
  (mapOf matchedIds.zipIdx d.product.productId).getD 999

def searchProducts (query : SearchQuery) (db : Database) : SearchPage :=
  let matchedIds := (slice query.page query.limit (ranked index tie query.search db)).map
    Product.productId
  let total := db.products.rows.countP (Matches index query.search)
  let totalPages := (total + query.limit - 1) / query.limit
  if matchedIds.isEmpty then
    { products := []
      pagination :=
        { total, totalPages, currentPage := query.page, limit := query.limit
          hasNextPage := false, hasPreviousPage := false } }
  else
    let raw := db.products.rows.filter fun p => p.productId ∈ matchedIds ∧ PriceClause query p
    { products := (raw.map (ProductService.details db)).insertionSort fun a b =>
        placeOf matchedIds a ≤ placeOf matchedIds b
      pagination :=
        { total, totalPages, currentPage := query.page, limit := query.limit
          hasNextPage := query.page < totalPages, hasPreviousPage := 1 < query.page } }

/-- A product whose price lies between the bounds of a search -/
def InRange (query : SearchQuery) (p : Product) : Prop :=
  (∀ minPrice ∈ query.minPrice, minPrice ≤ p.price) ∧ ∀ maxPrice ∈ query.maxPrice, p.price ≤ maxPrice

instance (query : SearchQuery) : DecidablePred (InRange query) := fun _ =>
  inferInstanceAs (Decidable ((∀ minPrice ∈ query.minPrice, _) ∧ ∀ maxPrice ∈ query.maxPrice, _))

/-- What the pages of a search show, each page under its own order of equal ranks -/
def readPages (ties : ℕ → String → ℕ) (query : SearchQuery) (db : Database) : List SearchPage :=
  let first := searchProducts index (ties 0) { query with page := 1 } db
  (List.range first.pagination.totalPages).map fun i =>
    searchProducts index (ties i) { query with page := i + 1 } db

/-- The pages show the products that match and lie in the range, each once and by rank, on full
pages, and each page counts them. -/
structure PagesAgree (ties : ℕ → String → ℕ) (query : SearchQuery) (db : Database) : Prop where
  found : ∀ d, d ∈ (readPages index ties query db).flatMap SearchPage.products ↔
    ∃ p ∈ db.products.rows, (Matches index query.search p ∧ InRange query p) ∧
      ProductService.details db p = d
  ranks : ((readPages index ties query db).flatMap SearchPage.products).Pairwise fun a b =>
    index.rank query.search b.product < index.rank query.search a.product
  full : ∀ page ∈ (readPages index ties query db).dropLast, page.products.length = query.limit
  total : ∀ page ∈ readPages index ties query db, page.pagination.total =
    db.products.rows.countP fun p => Matches index query.search p ∧ InRange query p

section pages
variable {index tie} {search : String} {query : SearchQuery} {db : Database}

instance : Std.Total (Outranks index tie search) where
  total p q := by
    rcases lt_trichotomy (index.rank search p) (index.rank search q) with h | h | h
    · exact .inr (.inl h)
    · rcases le_total (tie p.productId) (tie q.productId) with ht | ht
      · exact .inl (.inr ⟨h, ht⟩)
      · exact .inr (.inr ⟨h.symm, ht⟩)
    · exact .inl (.inl h)

instance : IsTrans Product (Outranks index tie search) where
  trans p q r := by
    rintro (hpq | ⟨hpq, hties⟩) (hqr | ⟨hqr, hties'⟩)
    · exact .inl (hqr.trans hpq)
    · exact .inl (hqr ▸ hpq)
    · exact .inl (hpq ▸ hqr)
    · exact .inr ⟨hpq.trans hqr, hties.trans hties'⟩

theorem mem_ranked {p : Product} :
    p ∈ ranked index tie search db ↔ p ∈ db.products.rows ∧ Matches index search p := by
  rw [ranked, List.mem_insertionSort, List.mem_filter, decide_eq_true_eq]

theorem ranked_nodup : (ranked index tie search db).Nodup :=
  (List.perm_insertionSort _ _).nodup_iff.mpr ((List.Nodup.of_map _ db.products.unique).filter _)

theorem length_ranked :
    (ranked index tie search db).length = db.products.rows.countP (Matches index search) := by
  rw [ranked, List.length_insertionSort, List.countP_eq_length_filter]

theorem placeOf_getElem {shown : List Product} (hids : (shown.map Product.productId).Nodup) {i : ℕ}
    (hi : i < shown.length) :
    placeOf (shown.map Product.productId) (ProductService.details db shown[i]) = i := by
  have hkey := mapOf_zipIdx hids (hi.trans_eq (List.length_map _).symm)
  rw [List.getElem_map] at hkey
  exact congrArg (Option.getD · 999) hkey

theorem eq_of_placeOf_eq {shown : List Product} (hids : (shown.map Product.productId).Nodup)
    {p q : Product} (hp : p ∈ shown) (hq : q ∈ shown)
    (h : placeOf (shown.map Product.productId) (ProductService.details db p) =
      placeOf (shown.map Product.productId) (ProductService.details db q)) : p = q := by
  obtain ⟨i, hi, rfl⟩ := List.getElem_of_mem hp
  obtain ⟨j, hj, rfl⟩ := List.getElem_of_mem hq
  rw [placeOf_getElem hids hi, placeOf_getElem hids hj] at h
  subst h
  rfl

theorem pairwise_placeOf {shown : List Product} (hids : (shown.map Product.productId).Nodup) :
    shown.Pairwise fun p q =>
      placeOf (shown.map Product.productId) (ProductService.details db p) ≤
        placeOf (shown.map Product.productId) (ProductService.details db q) := by
  refine List.pairwise_iff_getElem.mpr fun i j hi hj hij => ?_
  rw [placeOf_getElem hids hi, placeOf_getElem hids hj]
  exact hij.le

/-- A page shows what the price clause leaves of its slice. -/
theorem searchProducts_products (index : TextIndex) (tie : String → ℕ) (query : SearchQuery)
    (db : Database) : (searchProducts index tie query db).products =
      ((slice query.page query.limit (ranked index tie query.search db)).filter
        (PriceClause query)).map (ProductService.details db) := by
  have hsub : List.Sublist (slice query.page query.limit (ranked index tie query.search db))
    (ranked index tie query.search db) := slice_sublist
  rw [searchProducts]
  generalize slice query.page query.limit (ranked index tie query.search db) = shown at hsub ⊢
  have hnodup : shown.Nodup := ranked_nodup.sublist hsub
  have hrow {p : Product} (hp : p ∈ shown) : p ∈ db.products.rows :=
    (mem_ranked.mp (hsub.subset hp)).1
  have hids : (shown.map Product.productId).Nodup :=
    hnodup.map_on fun p hp q hq => Table.key_injective (hrow hp) (hrow hq)
  dsimp only
  split
  · rename_i hempty
    rw [List.map_eq_nil_iff.mp (List.isEmpty_iff.mp hempty)]
    rfl
  · have hperm : (db.products.rows.filter fun p => p.productId ∈ shown.map Product.productId ∧
        PriceClause query p).Perm (shown.filter (PriceClause query)) := by
      refine (List.perm_ext_iff_of_nodup ((List.Nodup.of_map _ db.products.unique).filter _)
        (hnodup.filter _)).mpr fun p => ?_
      rw [List.mem_filter, List.mem_filter, decide_eq_true_eq, decide_eq_true_eq]
      constructor
      · rintro ⟨hp, hid, hprice⟩
        obtain ⟨q, hq, hid⟩ := List.mem_map.mp hid
        obtain rfl := Table.key_injective (hrow hq) hp hid
        exact ⟨hq, hprice⟩
      · rintro ⟨hp, hprice⟩
        exact ⟨hrow hp, List.mem_map_of_mem hp, hprice⟩
    have htotal : Std.Total fun a b : ProductDetails =>
        placeOf (shown.map Product.productId) a ≤ placeOf (shown.map Product.productId) b :=
      ⟨fun a b => le_total _ _⟩
    have htrans : IsTrans ProductDetails fun a b =>
        placeOf (shown.map Product.productId) a ≤ placeOf (shown.map Product.productId) b :=
      ⟨fun _ _ _ => le_trans⟩
    refine insertionSort_eq_of_perm ?_ (hperm.map _)
      (List.pairwise_map.mpr ((pairwise_placeOf hids).filter _))
    intro a ha b hb hab hba
    obtain ⟨p, hp, rfl⟩ := List.mem_map.mp ha
    obtain ⟨q, hq, rfl⟩ := List.mem_map.mp hb
    rw [eq_of_placeOf_eq hids (List.mem_of_mem_filter hp) (List.mem_of_mem_filter hq)
      (le_antisymm hab hba)]

end pages

section agreement
variable {index} {ties : ℕ → String → ℕ} {query : SearchQuery} {db : Database}

/-- The ranks of the products that match are distinct. -/
def DistinctRanks (index : TextIndex) (search : String) (db : Database) : Prop :=
  Distinct (index.rank search) (db.products.rows.filter (Matches index search))

theorem pairwise_ranked (hranks : DistinctRanks index query.search db) (tie : String → ℕ) :
    (ranked index tie query.search db).Pairwise fun p q =>
      index.rank query.search q < index.rank query.search p := by
  have hsorted : (ranked index tie query.search db).Pairwise (Outranks index tie query.search) :=
    List.pairwise_insertionSort _ _
  have hmem {p : Product} (hp : p ∈ ranked index tie query.search db) :
      p ∈ db.products.rows.filter (Matches index query.search) := (List.mem_insertionSort _).mp hp
  refine (hsorted.and ranked_nodup).imp_of_mem fun hp hq h => ?_
  rcases h.1 with hlt | ⟨heq, -⟩
  · exact hlt
  · exact absurd (hranks _ (hmem hp) _ (hmem hq) heq) h.2

/-- No order of equal ranks matters where the ranks are distinct. -/
theorem ranked_eq (hranks : DistinctRanks index query.search db) (tie tie' : String → ℕ) :
    ranked index tie query.search db = ranked index tie' query.search db := by
  have hperm : (ranked index tie query.search db).Perm (ranked index tie' query.search db) :=
    (List.perm_insertionSort _ _).trans (List.perm_insertionSort _ _).symm
  exact hperm.eq_of_pairwise (fun p q _ _ h h' => absurd h' h.not_gt)
    (pairwise_ranked hranks tie) (pairwise_ranked hranks tie')

theorem searchProducts_total (tie : String → ℕ) : (searchProducts index tie query db).pagination.total =
    db.products.rows.countP (Matches index query.search) := by
  rw [searchProducts]
  dsimp only
  split <;> rfl

theorem searchProducts_totalPages (tie : String → ℕ) :
    (searchProducts index tie query db).pagination.totalPages =
      (db.products.rows.countP (Matches index query.search) + query.limit - 1) / query.limit := by
  rw [searchProducts]
  dsimp only
  split <;> rfl

theorem countP_inRange_eq_iff : db.products.rows.countP (Matches index query.search) =
      (db.products.rows.countP fun p => Matches index query.search p ∧ InRange query p) ↔
    ∀ p ∈ db.products.rows, Matches index query.search p → InRange query p := by
  have hcount : (db.products.rows.countP fun p => Matches index query.search p ∧ InRange query p) =
      (db.products.rows.filter (Matches index query.search)).countP (InRange query) := by
    rw [List.countP_filter]
    refine List.countP_congr fun p _ => ?_
    rw [decide_eq_true_eq, Bool.and_eq_true, decide_eq_true_eq, decide_eq_true_eq, and_comm]
  rw [hcount, List.countP_eq_length_filter, eq_comm, List.countP_eq_length]
  simp only [List.mem_filter, decide_eq_true_eq, and_imp]

/-- The pages of a search agree with its bounds, exactly when the bounds exclude nothing. -/
theorem pagesAgree_iff (hlimit : 0 < query.limit) (hranks : DistinctRanks index query.search db) :
    PagesAgree index ties query db ↔
      ∀ p ∈ db.products.rows, Matches index query.search p → InRange query p := by
  rw [← countP_inRange_eq_iff]
  constructor
  · intro h
    by_contra hcount
    have hpos : 0 < db.products.rows.countP (Matches index query.search) := by
      refine Nat.pos_of_ne_zero fun hzero => hcount ?_
      rw [hzero, eq_comm, List.countP_eq_zero]
      intro p hp hmatch
      have hnone := List.countP_eq_zero.mp hzero p hp
      rw [decide_eq_true_eq] at hmatch hnone
      exact hnone hmatch.1
    have hfirst : searchProducts index (ties 0) { query with page := 1 } db ∈
        readPages index ties query db := by
      refine List.mem_map.mpr ⟨0, List.mem_range.mpr ?_, rfl⟩
      have hfit := le_pages_mul (db.products.rows.countP (Matches index query.search)) hlimit
      rw [searchProducts_totalPages]
      exact Nat.pos_of_mul_pos_right (hpos.trans_le hfit)
    have htotal := h.total _ hfirst
    rw [searchProducts_total] at htotal
    exact hcount htotal
  · intro hcount
    have hall := countP_inRange_eq_iff.mp hcount
    have hclause (tie : String → ℕ) (page : ℕ) :
        (searchProducts index tie { query with page } db).products =
          (slice page query.limit (ranked index (ties 0) query.search db)).map
            (ProductService.details db) := by
      rw [searchProducts_products]
      dsimp only
      rw [ranked_eq hranks tie (ties 0), List.filter_eq_self.mpr]
      intro p hp
      obtain ⟨hrow, hmatch⟩ := mem_ranked.mp (slice_sublist.subset hp)
      obtain ⟨hlow, hhigh⟩ := hall p hrow hmatch
      exact decide_eq_true ⟨hhigh, fun _ => hlow⟩
    have hshown : (readPages index ties query db).flatMap SearchPage.products =
        (ranked index (ties 0) query.search db).map (ProductService.details db) := by
      rw [readPages, List.flatMap_map]
      simp only [hclause]
      rw [← List.map_flatMap, flatMap_slice, searchProducts_totalPages, List.take_of_length_le]
      rw [length_ranked]
      exact le_pages_mul _ hlimit
    refine ⟨fun d => ?_, ?_, ?_, ?_⟩
    · rw [hshown, List.mem_map]
      constructor
      · rintro ⟨p, hp, rfl⟩
        obtain ⟨hrow, hmatch⟩ := mem_ranked.mp hp
        exact ⟨p, hrow, ⟨hmatch, hall p hrow hmatch⟩, rfl⟩
      · rintro ⟨p, hrow, ⟨hmatch, -⟩, rfl⟩
        exact ⟨p, mem_ranked.mpr ⟨hrow, hmatch⟩, rfl⟩
    · rw [hshown, List.pairwise_map]
      exact pairwise_ranked hranks (ties 0)
    · intro page hpage
      rw [readPages, ← List.map_dropLast] at hpage
      obtain ⟨i, hi, rfl⟩ := List.mem_map.mp hpage
      have hi : i + 1 < (searchProducts index (ties 0) { query with page := 1 }
          db).pagination.totalPages := by
        rw [List.dropLast_eq_take, List.take_range, List.length_range, List.mem_range] at hi
        omega
      rw [searchProducts_totalPages] at hi
      rw [hclause, List.length_map, length_slice_of_lt]
      rw [length_ranked]
      exact mul_lt_of_lt_pages hlimit hi
    · intro page hpage
      obtain ⟨i, -, rfl⟩ := List.mem_map.mp hpage
      exact (searchProducts_total (ties i)).trans hcount

end agreement

/-- A fan at 5, a lamp at 15 and a stove at 30 -/
def pricedShop : Database where
  products :=
    ⟨[{ productId := "fan", price := 5, status := .published },
      { productId := "lamp", price := 15, status := .published },
      { productId := "stove", price := 30, status := .published }], by decide⟩

/-- Every product matches, the dearer one better. -/
def byPrice : TextIndex := ⟨fun _ _ => true, fun _ p => p.price⟩

theorem byPrice_distinct : DistinctRanks byPrice "home" pricedShop := by
  have hprices : ((pricedShop.products.rows.filter (Matches byPrice "home")).map
      (byPrice.rank "home")).Nodup := by decide +kernel
  exact fun p hp q hq h => List.inj_on_of_nodup_map hprices hp hq h

/-- Between 5 and 30 the search agrees with its bounds. -/
theorem pagesAgree_five_to_thirty : PagesAgree byPrice (fun _ _ => 0)
    { search := "home", limit := 2, minPrice := some 5, maxPrice := some 30 } pricedShop :=
  (pagesAgree_iff (by decide) byPrice_distinct).mpr (by decide +kernel)

/-- Between 10 and 20 the fan at 5 is shown beside the lamp, and three products are counted. -/
theorem not_pagesAgree_ten_to_twenty : ∃ query : SearchQuery, query.minPrice = some 10 ∧
    query.maxPrice = some 20 ∧
    ((searchProducts byPrice (fun _ => 0) query pricedShop).products.map fun d =>
      d.product.productId) = ["lamp", "fan"] ∧
    (searchProducts byPrice (fun _ => 0) query pricedShop).pagination.total = 3 ∧
    ¬ PagesAgree byPrice (fun _ _ => 0) query pricedShop := by
  refine ⟨{ search := "home", minPrice := some 10, maxPrice := some 20 }, rfl, rfl,
    by decide +kernel, by decide +kernel, fun h => ?_⟩
  have htotal := h.total (searchProducts byPrice (fun _ => 0)
    { search := "home", minPrice := some 10, maxPrice := some 20 } pricedShop)
    (List.mem_map.mpr ⟨0, List.mem_range.mpr (by decide +kernel), rfl⟩)
  exact absurd htotal (by decide +kernel)

end ProductListing
end InstalFlow
