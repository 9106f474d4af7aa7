import InstalFlow.InstallmentBreakdown
import InstalFlow.InstallmentQueries
import InstalFlow.Relational.Pages
import Mathlib.Data.Prod.Lex
import Mathlib.Data.String.Basic

/-!
# Reading the catalogue by cursor

A page asks for one row more than it shows. The row more is taken off and handed out as the
next cursor, and the page of a cursor begins after the cursor's row, so that this row is on no
page at all.
-/

namespace InstalFlow
open Relational

structure ProductCursorQueryParams where
  limit : ℕ := 10
  cursor : Option String := none
  sortOrder : SortOrder := .desc
  category : Option String := none
  companyId : Option String := none

structure CursorPagination where
  limit : ℕ
  nextCursor : Option String
  prevCursor : Option String
  hasNextPage : Bool
  hasPreviousPage : Bool
  nextLink : Option String
  prevLink : Option String

structure CursorPage where
  products : List ProductDetails
  pagination : CursorPagination

/-- An empty text counts as none. -/
def truthy (text : Option String) : Option String := text.filter (· ≠ "")

/-- Text in a query string: bytes that are not a letter, a digit or one of a few signs are
written in hexadecimal. -/
def encodeURIComponent (text : String) : String :=
  String.join <| text.toList.map fun c =>
    if c.isAlphanum ∨ c ∈ "-_.!~*'()".toList then c.toString
    else String.join <| (String.utf8EncodeChar c).map fun byte =>
      "%" ++ String.ofList [(byte.toNat / 16).digitChar.toUpper, (byte.toNat % 16).digitChar.toUpper]

namespace ProductService

def inCategory (category : String) (db : Database) (p : Product) : Prop :=
  ∃ c ∈ db.categories.find? p.categoryId,
    c.name.toLower = category.toLower ∨ c.slug.toLower = category.toLower

/-- The `where` clause of the list -/
def Listed (params : ProductCursorQueryParams) (db : Database) (p : Product) : Prop :=
  p.status = .published ∧ (∀ companyId ∈ truthy params.companyId, p.companyId = some companyId) ∧
    ∀ category ∈ truthy params.category, inCategory category db p

def sortKey (p : Product) : DateTime ×ₗ String := toLex (p.createdAt, p.productId)

/-- The `orderBy` clause of the list -/
def Precedes : SortOrder → Product → Product → Prop
  | .asc, p, q => sortKey p ≤ sortKey q
  | .desc, p, q => sortKey q ≤ sortKey p

instance (category : String) (db : Database) (p : Product) : Decidable (inCategory category db p) :=
  inferInstanceAs (Decidable (∃ c ∈ db.categories.find? p.categoryId, _ ∨ _))

instance (params : ProductCursorQueryParams) (db : Database) :
    DecidablePred (Listed params db) := fun _ =>
  inferInstanceAs (Decidable (_ ∧ (∀ companyId ∈ truthy params.companyId, _) ∧
    ∀ category ∈ truthy params.category, _))

instance (sortOrder : SortOrder) : DecidableRel (Precedes sortOrder) :=
  match sortOrder with
  | .asc => fun p q => inferInstanceAs (Decidable (sortKey p ≤ sortKey q))
  | .desc => fun p q => inferInstanceAs (Decidable (sortKey q ≤ sortKey p))

/-- The products of a list, in its order -/
def listing (params : ProductCursorQueryParams) (db : Database) : List Product :=
  (db.products.rows.filter (Listed params db)).insertionSort (Precedes params.sortOrder)

/-- The rows from the row of a cursor on -/
def startingAt (sortOrder : SortOrder) (cursor : String) (db : Database) (rows : List Product) :
    List Product :=
  match db.products.find? cursor with
  | none => []
  | some first => rows.filter (Precedes sortOrder first ·)

def afterCursor (params : ProductCursorQueryParams) (db : Database) : List Product :=
  match truthy params.cursor with
  | none => listing params db
  | some cursor => (startingAt params.sortOrder cursor db (listing params db)).drop 1

def pageLink (params : ProductCursorQueryParams) (cursor : String) : String :=
  "/products/cursor?cursor=" ++ cursor ++ "&limit=" ++ toString params.limit ++
    (match truthy params.category with
    | none => ""
    | some category => "&category=" ++ encodeURIComponent category)

def getAllProductCursor (params : ProductCursorQueryParams) (db : Database) : CursorPage :=
  let raw := (afterCursor params db).take (params.limit + 1)
  let products := raw.map (details db)
  -- `pop` takes the look-ahead row off
  let next := if params.limit < products.length then products.getLast? else none
  let products := if params.limit < products.length then products.dropLast else products
  let nextCursor := next.map fun d => d.product.productId
  let prevCursor := products.head?.map fun d => d.product.productId
  { products
    pagination :=
      { limit := params.limit
        nextCursor
        prevCursor
        hasNextPage := (truthy nextCursor).isSome
        hasPreviousPage := (truthy params.cursor).isSome
        nextLink := (truthy nextCursor).map (pageLink params)
        prevLink := (truthy prevCursor).map (pageLink params) } }

end ProductService

/-- Reading on from a cursor until no next one is given -/
inductive Browses (params : ProductCursorQueryParams) (db : Database) :
    Option String → List ProductDetails → Prop
  | last {cursor : Option String}
      (h : (ProductService.getAllProductCursor { params with cursor } db).pagination.nextCursor =
        none) :
      Browses params db cursor (ProductService.getAllProductCursor { params with cursor } db).products
  | next {cursor : Option String} {nextCursor : String} {rest : List ProductDetails}
      (h : (ProductService.getAllProductCursor { params with cursor } db).pagination.nextCursor =
        some nextCursor)
      (hrest : Browses params db (some nextCursor) rest) :
      Browses params db cursor
        ((ProductService.getAllProductCursor { params with cursor } db).products ++ rest)

namespace ProductService
variable {params : ProductCursorQueryParams} {db : Database} {sortOrder : SortOrder}

instance (sortOrder : SortOrder) : Std.Total (Precedes sortOrder) where
  total p q := by
    cases sortOrder with
    | asc => exact le_total (sortKey p) (sortKey q)
    | desc => exact le_total (sortKey q) (sortKey p)

instance (sortOrder : SortOrder) : IsTrans Product (Precedes sortOrder) where
  trans p q r hpq hqr := by
    cases sortOrder with
    | asc => exact le_trans hpq hqr
    | desc => exact le_trans hqr hpq

theorem sortKey_of_precedes {p q : Product} (hpq : Precedes sortOrder p q)
    (hqp : Precedes sortOrder q p) : sortKey p = sortKey q := by
  cases sortOrder with
  | asc => exact le_antisymm hpq hqp
  | desc => exact le_antisymm hqp hpq

theorem mem_of_mem_listing {p : Product} (h : p ∈ listing params db) : p ∈ db.products.rows :=
  List.mem_of_mem_filter ((List.mem_insertionSort _).mp h)

theorem listing_nodup (params : ProductCursorQueryParams) (db : Database) :
    (listing params db).Nodup :=
  (List.perm_insertionSort _ _).nodup_iff.mpr ((List.Nodup.of_map _ db.products.unique).filter _)

/-- After the row of a cursor come the rows behind it. -/
theorem afterCursor_of_listing {before after : List Product} {p : Product} {cursor : String}
    (hlisting : listing params db = before ++ p :: after) (hcursor : p.productId = cursor)
    (hne : cursor ≠ "") : afterCursor { params with cursor := some cursor } db = after := by
  have hp : p ∈ listing params db := hlisting ▸ List.mem_append_right _ List.mem_cons_self
  have hsorted : (listing params db).Pairwise (Precedes params.sortOrder) :=
    List.pairwise_insertionSort _ _
  have hnodup := listing_nodup params db
  have hanti (q : Product) (hq : q ∈ before) (hqp : Precedes params.sortOrder q p)
      (hpq : Precedes params.sortOrder p q) : q = p := by
    have hq : q ∈ listing params db := hlisting ▸ List.mem_append_left _ hq
    have hkey := congrArg (fun key => (ofLex key).2) (sortKey_of_precedes hqp hpq)
    exact Table.key_injective (mem_of_mem_listing hq) (mem_of_mem_listing hp) hkey
  have hfrom : startingAt params.sortOrder cursor db (listing params db) = p :: after := by
    rw [startingAt, ← hcursor, Table.find?_of_mem (mem_of_mem_listing hp)]
    rw [hlisting] at hnodup hsorted ⊢
    exact filter_of_sorted hnodup hanti hsorted
  have hsame : listing { params with cursor := some cursor } db = listing params db := rfl
  have htruthy : truthy (some cursor) = some cursor := by
    rw [truthy, Option.filter_some, if_pos (decide_eq_true hne)]
  rw [afterCursor, htruthy, hsame]
  exact congrArg (List.drop 1) hfrom

/-- A page shows the first rows and hands out the row behind them. -/
theorem getAllProductCursor_page (params : ProductCursorQueryParams) (db : Database) :
    (getAllProductCursor params db).products =
        ((afterCursor params db).take params.limit).map (details db) ∧
      (getAllProductCursor params db).pagination.nextCursor =
        (afterCursor params db)[params.limit]?.map Product.productId := by
  have hlength : params.limit < (((afterCursor params db).take (params.limit + 1)).map
      (details db)).length ↔ params.limit < (afterCursor params db).length := by
    rw [List.length_map, List.length_take]
    omega
  dsimp only [getAllProductCursor]
  generalize afterCursor params db = rows at hlength ⊢
  simp only [hlength]
  by_cases hmore : params.limit < rows.length
  · have hlast : (rows.take (params.limit + 1)).getLast? = rows[params.limit]? := by
      rw [List.getLast?_take, if_neg (Nat.succ_ne_zero _), Nat.add_sub_cancel,
        List.getElem?_eq_getElem hmore]
      rfl
    have hdrop : (rows.take (params.limit + 1)).dropLast = rows.take params.limit := by
      rw [List.dropLast_eq_take, List.length_take, min_eq_left (show params.limit + 1 ≤ _ from hmore),
        Nat.add_sub_cancel, List.take_take, min_eq_left (Nat.le_succ _)]
    rw [if_pos hmore, if_pos hmore, ← List.map_dropLast, hdrop, List.getLast?_map, hlast,
      Option.map_map]
    exact ⟨rfl, rfl⟩
  · have hrows := not_lt.mp hmore
    rw [if_neg hmore, if_neg hmore, List.take_of_length_le hrows,
      List.take_of_length_le (hrows.trans (Nat.le_succ _)), List.getElem?_eq_none hrows]
    exact ⟨rfl, rfl⟩

end ProductService

section browsing
variable {params : ProductCursorQueryParams} {db : Database} {cursor : Option String}
  {shown shown' : List ProductDetails}

theorem Browses.unique (h : Browses params db cursor shown) (h' : Browses params db cursor shown') :
    shown' = shown := by
  induction h generalizing shown' with
  | last hlast =>
    cases h' with
    | last => rfl
    | next hnext => exact absurd (hlast.symm.trans hnext) (by simp)
  | next hnext hrest ih =>
    cases h' with
    | last hlast => exact absurd (hlast.symm.trans hnext) (by simp)
    | next hnext' hrest' =>
      obtain rfl := Option.some.inj (hnext.symm.trans hnext')
      rw [ih hrest']

/-- An empty cursor begins at the first page. -/
theorem Browses.of_empty (h : Browses params db (some "") shown) : Browses params db none shown := by
  cases h with
  | last hlast => exact .last hlast
  | next hnext hrest => exact .next hnext hrest

/-- What is read from a cursor on lies behind the cursor's row, unless the reading starts over. -/
theorem Browses.length_le (h : Browses params db cursor shown)
    {before after : List Product} {p : Product}
    (hlisting : ProductService.listing params db = before ++ p :: after)
    (hcursor : cursor = some p.productId) (hne : p.productId ≠ "") :
    shown.length ≤ after.length ∨
      ∃ again, Browses params db none again ∧ again.length ≤ shown.length := by
  induction h generalizing before after p with
  | last =>
    left
    subst hcursor
    rw [(ProductService.getAllProductCursor_page _ db).1,
      ProductService.afterCursor_of_listing hlisting rfl hne, List.length_map, List.length_take]
    exact min_le_right _ _
  | @next _ nextCursor rest hnext hrest ih =>
    subst hcursor
    obtain ⟨hproducts, hcursor⟩ := ProductService.getAllProductCursor_page
      { params with cursor := some p.productId } db
    rw [ProductService.afterCursor_of_listing hlisting rfl hne] at hproducts hcursor
    obtain ⟨q, hq, rfl⟩ := Option.map_eq_some_iff.mp (hcursor.symm.trans hnext)
    obtain ⟨hlt, rfl⟩ := List.getElem?_eq_some_iff.mp hq
    rw [hproducts, List.length_append, List.length_map, List.length_take, min_eq_left hlt.le]
    by_cases hempty : (after[params.limit]).productId = ""
    · right
      rw [hempty] at hrest
      exact ⟨rest, hrest.of_empty, Nat.le_add_left _ _⟩
    · have hlisting' : ProductService.listing params db =
          (before ++ p :: after.take params.limit) ++
            after[params.limit] :: after.drop (params.limit + 1) := by
        rw [hlisting, List.append_assoc, List.cons_append, take_append_cons_drop hlt]
      rcases ih hlisting' rfl hempty with hle | ⟨again, hagain, hle⟩
      · left
        rw [List.length_drop] at hle
        have hlt : params.limit < after.length := hlt
        change params.limit + rest.length ≤ after.length
        omega
      · exact .inr ⟨again, hagain, hle.trans (Nat.le_add_left _ _)⟩

/-- Reading on to the end shows the whole list, exactly when the list fits on one page. -/
theorem browses_listing_iff (hlimit : 0 < params.limit) :
    Browses params db none
        ((ProductService.listing params db).map (ProductService.details db)) ↔
      (ProductService.listing params db).length ≤ params.limit := by
  obtain ⟨hproducts, hcursor⟩ :=
    ProductService.getAllProductCursor_page { params with cursor := none } db
  have hfirst : ProductService.afterCursor { params with cursor := none } db =
      ProductService.listing params db := rfl
  rw [hfirst] at hproducts hcursor
  constructor
  · intro h
    by_contra hmore
    have hlt := not_le.mp hmore
    have hagain := h
    generalize hshown : (ProductService.listing params db).map (ProductService.details db) = shown
      at h
    have hlength := congrArg List.length hshown
    rw [List.getElem?_eq_getElem hlt] at hcursor
    cases h with
    | last hlast => exact absurd (hlast.symm.trans hcursor) (by simp)
    | @next _ nextCursor rest hnext hrest =>
      obtain rfl := Option.some.inj (hcursor.symm.trans hnext)
      rw [hproducts, List.length_append, List.length_map, List.length_map, List.length_take,
        min_eq_left hlt.le] at hlength
      -- a reading that starts over would show the whole list a second time
      have hover {again : List ProductDetails} (h : Browses params db none again) :
          again.length = (ProductService.listing params db).length := by
        rw [hagain.unique h, List.length_map]
      by_cases hempty : ((ProductService.listing params db)[params.limit]).productId = ""
      · rw [hempty] at hrest
        have hover := hover hrest.of_empty
        omega
      · rcases hrest.length_le (take_append_cons_drop hlt).symm rfl hempty with hle | ⟨again, h, hle⟩
        · rw [List.length_drop] at hle
          omega
        · have hover := hover h
          omega
  · intro hle
    rw [List.getElem?_eq_none hle] at hcursor
    rw [List.take_of_length_le hle] at hproducts
    rw [← hproducts]
    exact .last hcursor

end browsing

/-- Three products of one day on sale, and one that is not -/
def smallShop : Database where
  products :=
    ⟨[{ productId := "a", status := .published }, { productId := "b", status := .published },
      { productId := "c", status := .published }, { productId := "d", status := .draft }],
      by decide⟩

def shownIn (db : Database) (productIds : List String) : List ProductDetails :=
  (productIds.filterMap db.products.find?).map (ProductService.details db)

/-- Three products on pages of three are all read. -/
theorem browses_whole_shop :
    Browses { limit := 3, sortOrder := .asc } smallShop none (shownIn smallShop ["a", "b", "c"]) :=
  (@browses_listing_iff { limit := 3, sortOrder := .asc } smallShop (by decide)).mpr
    (by decide +kernel)

/-- On pages of one the second product is read by nobody: it is the cursor. -/
theorem browses_past_cursor : ∃ params : ProductCursorQueryParams, params.limit = 1 ∧
    (ProductService.listing params smallShop).map Product.productId = ["a", "b", "c"] ∧
    Browses params smallShop none (shownIn smallShop ["a", "c"]) ∧
    ¬ Browses params smallShop none
      ((ProductService.listing params smallShop).map (ProductService.details smallShop)) := by
  have hread : Browses { limit := 1, sortOrder := .asc } smallShop none
      (shownIn smallShop ["a", "c"]) :=
    .next (show _ = some "b" by decide +kernel) (.last (by decide +kernel))
  refine ⟨{ limit := 1, sortOrder := .asc }, rfl, by decide +kernel, hread, fun h => ?_⟩
  have hlength := congrArg List.length (hread.unique h)
  exact absurd hlength (by decide +kernel)

end InstalFlow
