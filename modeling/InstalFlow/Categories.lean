import InstalFlow.FinancingService
import InstalFlow.Text.Slug
import InstalFlow.Transition.Run

/-!
# Categories of products

A category is found by the slug of its name. Names that differ only in what is no letter or
digit, or in their case, have the same slug, and one category of them is possible. A category
stays as long as it has products.
-/

namespace InstalFlow
open Relational Transition WriteOffContractSchema

/-- `z.string().min(2).max(100)` -/
structure CategoryName where
  text : String
  min : 2 ≤ utf16Length text
  max : utf16Length text ≤ 100

/-- `toLowerCase`, as far as it gives letters from a to z: of the characters that are none, only
two others than A to Z do, the Kelvin sign and the capital I with a dot. -/
def lowered (c : Char) : List Char :=
  if c.isUpper then [c.toLower]
  else if c.val = 0x212A then ['k']
  else if c.val = 0x0130 then ['i', Char.ofNat 0x0307]
  else [c]

/-- `[a-z0-9]` -/
def isSlugLetter (c : Char) : Bool := c.isLower || c.isDigit

def nameWords (name : String) : List (List Char) :=
  Text.words isSlugLetter (name.toList.flatMap lowered)

namespace CategoryService

def generateSlug (name : String) : String :=
  String.ofList (Text.slug isSlugLetter '-' (name.toList.flatMap lowered))

def findBySlug (slug : String) (db : Database) : Option Category :=
  db.categories.rows.find? fun c => c.slug = slug

def createCategory (categoryId : String) (name : CategoryName) (db : Database) :
    Except AppError (Category × Database) :=
  let slug := generateSlug name.text
  if (findBySlug slug db).isSome then
    .error (.badRequest "Category with a similar name/slug already exists")
  else do
    let category : Category := { categoryId, name := name.text, slug }
    let categories ← createRow db.categories category ["categoryId"]
    return (category, { db with categories })

def getCategoryById (categoryId : String) (db : Database) : Except AppError Category :=
  match db.categories.find? categoryId with
  | none => .error (.notFound "Category not found")
  | some category => .ok category

/-- The slug of another name has to be free, or the category's own. -/
def slugFor (category : Category) (name : Option CategoryName) (db : Database) :
    Except AppError String :=
  match name.filter fun n => n.text ≠ "" ∧ n.text ≠ category.name with
  | none => .ok category.slug
  | some name =>
    let slug := generateSlug name.text
    if (findBySlug slug db).any fun c => c.categoryId ≠ category.categoryId then
      .error (.badRequest "Category with a similar name/slug already exists")
    else .ok slug

def renamed (name : Option CategoryName) (slug : String) (c : Category) : Category :=
  { c with name := (name.map CategoryName.text).getD c.name, slug }

def updateCategory (categoryId : String) (name : Option CategoryName) (db : Database) :
    Except AppError Database := do
  let category ← getCategoryById categoryId db
  let slug ← slugFor category name db
  let categories := db.categories.update categoryId (renamed name slug) (fun _ => rfl)
  return { db with categories }

def productsOf (categoryId : String) (db : Database) : List Product :=
  db.products.rows.filter fun p => p.categoryId = categoryId

def deleteCategory (categoryId : String) (db : Database) : Except AppError Database := do
  let category ← getCategoryById categoryId db
  if 0 < (productsOf category.categoryId db).length then
    throw (.badRequest "Cannot delete category containing active products")
  let categories := db.categories.deleteMany fun c => c.categoryId = categoryId
  return { db with categories }

end CategoryService

inductive CategoryOperation
  | create (categoryId : String) (name : CategoryName)
  | update (categoryId : String) (name : Option CategoryName)
  | delete (categoryId : String)

def CategoryOperation.execute (db : Database) : CategoryOperation → Database
  | create categoryId name =>
      committed db Prod.snd (CategoryService.createCategory categoryId name db)
  | update categoryId name => committed db id (CategoryService.updateCategory categoryId name db)
  | delete categoryId => committed db id (CategoryService.deleteCategory categoryId db)

/-- Each category has the slug of its name, and no other has it; each product has a category. -/
structure Database.Categorised (db : Database) : Prop where
  slug : ∀ c ∈ db.categories.rows, c.slug = CategoryService.generateSlug c.name
  unique : ∀ c ∈ db.categories.rows, ∀ c' ∈ db.categories.rows, c.slug = c'.slug → c = c'
  products : ∀ p ∈ db.products.rows, ∃ c ∈ db.categories.rows, c.categoryId = p.categoryId

section operations
variable {db db' : Database} {categoryId : String} {name : CategoryName} {slug : String}

/-- Names of categories are not empty. -/
theorem CategoryName.text_ne (name : CategoryName) : name.text ≠ "" := by
  intro h
  have hmin := name.min
  rw [h] at hmin
  exact absurd hmin (by decide)

namespace CategoryService

/-- The same slug is the same words. -/
theorem generateSlug_inj {s t : String} :
    generateSlug s = generateSlug t ↔ nameWords s = nameWords t := by
  rw [generateSlug, generateSlug, String.ofList_inj, Text.slug_inj (by decide)]
  rfl

theorem findBySlug_isSome :
    (findBySlug slug db).isSome ↔ ∃ c ∈ db.categories.rows, c.slug = slug := by
  simp [findBySlug]

theorem createCategory_isOk (h : db.Categorised)
    (hnew : db.categories.find? categoryId = none) :
    (createCategory categoryId name db).isOk = true ↔
      ∀ c ∈ db.categories.rows, nameWords c.name ≠ nameWords name.text := by
  have htaken : (findBySlug (generateSlug name.text) db).isSome ↔
      ∃ c ∈ db.categories.rows, nameWords c.name = nameWords name.text := by
    rw [findBySlug_isSome]
    refine exists_congr fun c => and_congr_right fun hc => ?_
    rw [h.slug c hc, generateSlug_inj]
  rw [createCategory]
  simp only
  split
  · rename_i hsome
    obtain ⟨c, hc, hsame⟩ := htaken.mp hsome
    exact iff_of_false Bool.false_ne_true fun hall => hall c hc hsame
  · rename_i hnone
    refine iff_of_true ?_ fun c hc hsame => hnone (htaken.mpr ⟨c, hc, hsame⟩)
    let category : Category := ⟨categoryId, name.text, generateSlug name.text⟩
    obtain ⟨categories, hcreate⟩ := Table.create_isSome (t := db.categories) (r := category) hnew
    have hrow : createRow db.categories category ["categoryId"] = .ok categories :=
      createRow_eq_ok.mpr hcreate
    rw [hrow]
    rfl

/-- What an accepted category is -/
theorem createCategory_eq_ok {result : Category × Database}
    (h : createCategory categoryId name db = .ok result) :
    (∀ c ∈ db.categories.rows, c.slug ≠ generateSlug name.text) ∧
      result.2.categories.rows =
        db.categories.rows ++ [⟨categoryId, name.text, generateSlug name.text⟩] ∧
      result.2.products = db.products := by
  rw [createCategory] at h
  simp only at h
  split at h
  · cases h
  · rename_i hnone
    obtain ⟨categories, hcreate, h⟩ := bind_eq_ok.mp h
    cases h
    refine ⟨fun c hc hslug => hnone (findBySlug_isSome.mpr ⟨c, hc, hslug⟩), ?_, rfl⟩
    exact (Table.create_eq_some (createRow_eq_ok.mp hcreate)).2

theorem getCategoryById_eq_ok {category : Category}
    (h : getCategoryById categoryId db = .ok category) :
    db.categories.find? categoryId = some category := by
  rw [getCategoryById] at h
  split at h
  · cases h
  · cases h
    assumption

/-- The slug that a category is given belongs to its new name, and is free for it. -/
theorem slugFor_eq_ok (hdb : db.Categorised) {category : Category}
    (hcategory : category ∈ db.categories.rows) {name : Option CategoryName}
    (h : slugFor category name db = .ok slug) :
    slug = generateSlug ((name.map CategoryName.text).getD category.name) ∧
      ∀ c ∈ db.categories.rows, c.slug = slug → c = category := by
  rw [slugFor] at h
  cases name with
  | none =>
    cases h
    exact ⟨hdb.slug category hcategory, fun c hc hslug => hdb.unique c hc category hcategory hslug⟩
  | some name =>
    by_cases hname : name.text = category.name
    · simp only [Option.filter_some, hname, ne_eq, not_true_eq_false, and_false, decide_false,
        Bool.false_eq_true, if_false] at h
      cases h
      refine ⟨?_, fun c hc hslug => hdb.unique c hc category hcategory hslug⟩
      rw [Option.map_some, Option.getD_some, hname]
      exact hdb.slug category hcategory
    · simp only [Option.filter_some, name.text_ne, hname, ne_eq, not_false_eq_true, and_self,
        decide_true, if_true] at h
      split at h
      · cases h
      · rename_i hfree
        cases h
        refine ⟨rfl, fun c hc hslug => ?_⟩
        by_contra hne
        obtain ⟨d, hd⟩ := Option.isSome_iff_exists.mp (findBySlug_isSome.mpr ⟨c, hc, hslug⟩)
        have hdslug : d.slug = generateSlug name.text := by simpa using List.find?_some hd
        obtain rfl : d = c :=
          hdb.unique d (List.mem_of_find?_eq_some hd) c hc (hdslug.trans hslug.symm)
        refine hfree ?_
        rw [hd, Option.any_some, decide_eq_true_eq]
        exact fun hid => hne (Table.key_injective hc hcategory hid)

theorem categorised_create (hdb : db.Categorised) {result : Category × Database}
    (h : createCategory categoryId name db = .ok result) : result.2.Categorised := by
  obtain ⟨hfree, hrows, hproducts⟩ := createCategory_eq_ok h
  have hmem {c : Category} : c ∈ result.2.categories.rows ↔
      c ∈ db.categories.rows ∨ c = ⟨categoryId, name.text, generateSlug name.text⟩ := by
    rw [hrows, List.mem_append, List.mem_singleton]
  refine ⟨fun c hc => ?_, fun c hc c' hc' hslug => ?_, fun p hp => ?_⟩
  · rcases hmem.mp hc with hc | rfl
    · exact hdb.slug c hc
    · rfl
  · rcases hmem.mp hc with hc | rfl
    · rcases hmem.mp hc' with hc' | rfl
      · exact hdb.unique c hc c' hc' hslug
      · exact absurd hslug (hfree c hc)
    · rcases hmem.mp hc' with hc' | rfl
      · exact absurd hslug.symm (hfree c' hc')
      · rfl
  · rw [hproducts] at hp
    obtain ⟨c, hc, hid⟩ := hdb.products p hp
    exact ⟨c, hmem.mpr (.inl hc), hid⟩

theorem categorised_update (hdb : db.Categorised) {name : Option CategoryName}
    (h : updateCategory categoryId name db = .ok db') : db'.Categorised := by
  obtain ⟨category, hget, h⟩ := bind_eq_ok.mp h
  obtain ⟨slug, hslug, h⟩ := bind_eq_ok.mp h
  cases h
  have hfind := getCategoryById_eq_ok hget
  have hid : category.categoryId = categoryId := Table.find?_key hfind
  have hcategory := Table.mem_of_find? hfind
  obtain ⟨hname, hfree⟩ := slugFor_eq_ok hdb hcategory hslug
  let category' := renamed name slug category
  have hmem {c : Category} (hc : c ∈ (db.categories.update categoryId (renamed name slug)
      fun _ => rfl).rows) : c = category' ∨ c ∈ db.categories.rows ∧ c ≠ category := by
    rcases Table.mem_update_iff.mp hc with ⟨hc, hother⟩ | ⟨d, hd, hkey, rfl⟩
    · exact .inr ⟨hc, fun heq => hother (heq ▸ hid)⟩
    · obtain rfl := Table.key_injective hd hcategory (hkey.trans hid.symm)
      exact .inl rfl
  refine ⟨fun c hc => ?_, fun c hc c' hc' hsame => ?_, fun p hp => ?_⟩
  · rcases hmem hc with rfl | ⟨hc, -⟩
    · exact hname
    · exact hdb.slug c hc
  · rcases hmem hc with rfl | ⟨hc, hne⟩
    · rcases hmem hc' with rfl | ⟨hc', hne'⟩
      · rfl
      · exact absurd (hfree c' hc' hsame.symm) hne'
    · rcases hmem hc' with rfl | ⟨hc', -⟩
      · exact absurd (hfree c hc hsame) hne
      · exact hdb.unique c hc c' hc' hsame
  · obtain ⟨c, hc, hof⟩ := hdb.products p hp
    refine ⟨_, List.mem_map.mpr ⟨c, hc, rfl⟩, ?_⟩
    split
    · exact hof
    · exact hof

theorem categorised_delete (hdb : db.Categorised) (h : deleteCategory categoryId db = .ok db') :
    db'.Categorised := by
  obtain ⟨category, hget, h⟩ := bind_eq_ok.mp h
  have hid : category.categoryId = categoryId := Table.find?_key (getCategoryById_eq_ok hget)
  split at h
  · cases h
  · rename_i hnone
    cases h
    refine ⟨fun c hc => ?_, fun c hc c' hc' hsame => ?_, fun p hp => ?_⟩
    · exact hdb.slug c (Table.mem_deleteMany.mp hc).1
    · exact hdb.unique c (Table.mem_deleteMany.mp hc).1 c' (Table.mem_deleteMany.mp hc').1 hsame
    · obtain ⟨c, hc, hof⟩ := hdb.products p hp
      refine ⟨c, Table.mem_deleteMany.mpr ⟨hc, decide_eq_false fun hkey => hnone ?_⟩, hof⟩
      refine List.length_pos_of_mem (a := p) (List.mem_filter.mpr ⟨hp, ?_⟩)
      rw [decide_eq_true_eq, hid, ← hof, hkey]

end CategoryService

theorem CategoryOperation.categorised (hdb : db.Categorised) (o : CategoryOperation) :
    (o.execute db).Categorised := by
  cases o with
  | create categoryId name =>
    exact committed_rule hdb fun result h => CategoryService.categorised_create hdb h
  | update categoryId name =>
    exact committed_rule hdb fun result h => CategoryService.categorised_update hdb h
  | delete categoryId =>
    exact committed_rule hdb fun result h => CategoryService.categorised_delete hdb h

end operations

/-- Over every run of the operations on categories: no two categories have names of the same
words, each slug is these words joined, each product keeps its category, and a new category is
refused exactly when its words are taken. -/
theorem categorised_run {db : Database} (hdb : db.Categorised) (ls : List CategoryOperation) :
    let db' := run CategoryOperation.execute db ls
    (∀ c ∈ db'.categories.rows, ∀ c' ∈ db'.categories.rows,
        nameWords c.name = nameWords c'.name → c = c') ∧
      (∀ c ∈ db'.categories.rows, c.slug.toList = ['-'].intercalate (nameWords c.name)) ∧
      (∀ p ∈ db'.products.rows, ∃ c ∈ db'.categories.rows, c.categoryId = p.categoryId) ∧
      ∀ categoryId name, db'.categories.find? categoryId = none →
        ((CategoryService.createCategory categoryId name db').isOk = true ↔
          ∀ c ∈ db'.categories.rows, nameWords c.name ≠ nameWords name.text) := by
  have hrun : (run CategoryOperation.execute db ls).Categorised :=
    run_invariant (I := Database.Categorised) (fun _ o h => CategoryOperation.categorised h o) hdb
      ls
  refine ⟨fun c hc c' hc' hwords => ?_, fun c hc => ?_, hrun.products, fun categoryId name hnew =>
    CategoryService.createCategory_isOk hrun hnew⟩
  · refine hrun.unique c hc c' hc' ?_
    rw [hrun.slug c hc, hrun.slug c' hc', CategoryService.generateSlug_inj.mpr hwords]
  · rw [hrun.slug c hc, CategoryService.generateSlug, String.toList_ofList,
      Text.slug_eq (by decide)]
    rfl

/-- "Phones & Tablets" and "phones tablets" are one category. -/
theorem categorised_run_phones :
    let names : List CategoryName := [⟨"Phones & Tablets", by decide, by decide⟩,
      ⟨"phones tablets", by decide, by decide⟩, ⟨"Home", by decide, by decide⟩]
    let ls : List CategoryOperation :=
      [.create "a" names[0], .create "b" names[1], .update "a" (some names[1]),
        .create "c" names[2]]
    let db' := run CategoryOperation.execute {} ls
    db'.categories.rows.map Category.slug = ["phones-tablets", "home"] ∧
    (∀ c ∈ db'.categories.rows, ∀ c' ∈ db'.categories.rows,
        nameWords c.name = nameWords c'.name → c = c') ∧
      (∀ c ∈ db'.categories.rows, c.slug.toList = ['-'].intercalate (nameWords c.name)) ∧
      (∀ p ∈ db'.products.rows, ∃ c ∈ db'.categories.rows, c.categoryId = p.categoryId) ∧
      ∀ categoryId name, db'.categories.find? categoryId = none →
        ((CategoryService.createCategory categoryId name db').isOk = true ↔
          ∀ c ∈ db'.categories.rows, nameWords c.name ≠ nameWords name.text) :=
  ⟨by decide +kernel, categorised_run ⟨by simp, by simp, by simp⟩ _⟩

end InstalFlow
