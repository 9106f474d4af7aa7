import InstalFlow.PayoutQueries
import InstalFlow.ProductListing
import InstalFlow.ProgressFigures
import InstalFlow.Relational.Latest

/-!
# Customers as reviewers see them

Marketers, admins and companies list customers, page by page, and open one customer's contracts,
schedule and payments. The list selects by a `where` clause, the others check the customer
they are asked for.
-/

namespace InstalFlow
open Relational

/-- Whom the access token names -/
structure CustomerReviewer where
  userId : String
  role : Role
  companyId : Option String := none

structure CustomerQuery where
  page : ℕ := 1
  limit : ℕ := 20
  search : Option String := none
  page_pos : 0 < page := by decide
  limit_pos : 0 < limit := by decide
  limit_le : limit ≤ 100 := by decide

/-- When rows were created, which the rows do not hold themselves -/
structure CreationTimes where
  user : String → DateTime
  contract : String → DateTime
  payment : String → DateTime

structure ReferrerItem extends UserSummary where
  referralCode : Option String

structure CustomerItem extends UserSummary where
  role : Role
  createdAt : DateTime
  referredByMarketer : Option ReferrerItem

structure CustomerPage where
  total : ℕ
  page : ℕ
  limit : ℕ
  totalPages : ℕ
  customers : List CustomerItem

structure FinancedProduct where
  product : Option Product
  images : List String
  percentagePaid : ℚ
  totalFinanced : ℚ
  totalPaid : ℚ

structure ScheduledInstallment where
  installmentId : String
  amount : ℚ
  dueDate : DateTime
  status : InstallmentStatus
  payments : List Payment

structure CustomerSchedule where
  percentagePaid : ℚ
  totalFinanced : ℚ
  totalPaid : ℚ
  schedule : List ScheduledInstallment

structure PaymentItem where
  payment : Payment
  createdAt : DateTime
  product : Option Product
  installment : Installment

structure HierarchyMarketer where
  marketer : User
  referredUsers : List User

structure HierarchyAdmin where
  admin : User
  createdUsers : List HierarchyMarketer

namespace CustomerManagementService

def referredByMarketer (db : Database) (u : User) : Option User :=
  u.referredByMarketerId.bind db.users.find?

def validateCustomerScoping (customerId : String) (r : CustomerReviewer) (db : Database) :
    Except AppError User :=
  match db.users.find? customerId with
  | none => .error (.notFound "Customer not found.")
  | some customer =>
    match r.role with
    | .marketer =>
      if customer.referredByMarketerId ≠ some r.userId then
        .error (.unauthorized "Unauthorized: This customer is not within your referral scope.")
      else .ok customer
    | .admin =>
      if (referredByMarketer db customer).bind User.createdById ≠ some r.userId then
        .error (.unauthorized "Unauthorized: This customer's marketer is not assigned to you.")
      else .ok customer
    | .superAdmin => .ok customer
    | .company =>
      if (truthy r.companyId).isNone ∨ customer.companyId ≠ r.companyId then
        .error (.unauthorized "Unauthorized: This customer does not belong to your company.")
      else .ok customer
    | .customer =>
      if customerId ≠ r.userId then .error (.unauthorized "Unauthorized access.")
      else .ok customer

/-- What the list adds to its `where` clause for a role -/
def listScope (r : CustomerReviewer) (db : Database) : Except AppError (User → Bool) :=
  match r.role with
  | .marketer => .ok fun u => u.referredByMarketerId = some r.userId
  | .admin => .ok fun u => (referredByMarketer db u).any fun m => m.createdById = some r.userId
  | .superAdmin => .ok fun _ => true
  | .company =>
    match truthy r.companyId with
    | none => .error (.unauthorized "Unauthorized: missing company context.")
    | some companyId => .ok fun u => u.companyId = some companyId
  | .customer => .error (.unauthorized "Unauthorized role.")

/-- `contains` in any case, of the name or the e-mail -/
def searched (contains : String → String → Bool) (search : Option String) (u : User) : Bool :=
  (truthy search).all fun term => u.name.any (contains · term) || contains u.email term

def customerItem (times : CreationTimes) (db : Database) (u : User) : CustomerItem where
  toUserSummary := u.summary
  role := u.role
  createdAt := times.user u.userId
  referredByMarketer := (referredByMarketer db u).map fun m => ⟨m.summary, m.referralCode⟩

def listCustomers (contains : String → String → Bool) (times : CreationTimes) (q : CustomerQuery)
    (r : CustomerReviewer) (db : Database) : Except AppError CustomerPage := do
  let scope ← listScope r db
  let customers := (db.users.rows.filter fun u =>
    u.role = .customer ∧ searched contains q.search u ∧ scope u).insertionSort
      fun u v => times.user v.userId ≤ times.user u.userId
  return {
    total := customers.length
    page := q.page
    limit := q.limit
    totalPages := (customers.length + q.limit - 1) / q.limit
    customers := (slice q.page q.limit customers).map (customerItem times db) }

def contractsOf (customerId : String) (db : Database) : List FinancingContract :=
  db.financingContracts.rows.filter fun c => c.userId = some customerId

def financedProduct (db : Database) (f : FinancingContract) : Except AppError FinancedProduct := do
  let stats ← calculateProgressPercentage f.contractId db
  let product := (db.kycApplications.find? f.kycApplicationId).bind fun a =>
    db.products.find? a.productId
  return {
    product
    images := (db.productImages.rows.filter fun i =>
      product.any fun p => i.productId = p.productId).map ProductImage.imageUrl
    percentagePaid := stats.percentagePaid
    totalFinanced := stats.totalFinanced
    totalPaid := stats.totalPaid }

def getCustomerProducts (customerId : String) (r : CustomerReviewer) (db : Database) :
    Except AppError (List FinancedProduct) := do
  let _ ← validateCustomerScoping customerId r db
  (contractsOf customerId db).mapM (financedProduct db)

def scheduled (db : Database) (i : Installment) : ScheduledInstallment where
  installmentId := i.installmentId
  amount := i.amount
  dueDate := i.dueDate
  status := i.status
  payments := db.payments.rows.filter fun p => p.installmentId = i.installmentId

def getInstallmentSchedule (times : CreationTimes) (customerId productId : String)
    (r : CustomerReviewer) (db : Database) : Except AppError CustomerSchedule := do
  let _ ← validateCustomerScoping customerId r db
  match latestBy (fun c => times.contract c.contractId) ((contractsOf customerId db).filter fun c =>
      c.productId = productId ∧ (c.status = .active ∨ c.status = .pendingActivation)) with
  | none => .error (.notFound "Financing contract not found")
  | some contract => do
    let progress ← calculateProgressPercentage contract.contractId db
    return {
      percentagePaid := progress.percentagePaid
      totalFinanced := progress.totalFinanced
      totalPaid := progress.totalPaid
      schedule := ((db.installments.rows.filter fun i =>
        i.financingContractId = contract.contractId).insertionSort
          fun i j => i.dueDate ≤ j.dueDate).map (scheduled db) }

/-- The contract that a payment pays off -/
def contractOfPayment (db : Database) (p : Payment) : Option (Installment × FinancingContract) := do
  let installment ← db.installments.find? p.installmentId
  let contract ← db.financingContracts.find? installment.financingContractId
  return (installment, contract)

def getCustomerPaymentHistory (times : CreationTimes) (customerId : String) (r : CustomerReviewer)
    (db : Database) : Except AppError (List PaymentItem) := do
  let _ ← validateCustomerScoping customerId r db
  return (db.payments.rows.insertionSort
      fun p q => times.payment q.paymentId ≤ times.payment p.paymentId).filterMap fun p => do
    let (installment, contract) ← contractOfPayment db p
    guard (contract.userId = some customerId)
    return {
      payment := p
      createdAt := times.payment p.paymentId
      product := db.products.find? contract.productId
      installment }

def getCorporateHierarchy (r : CustomerReviewer) (db : Database) :
    Except AppError (List HierarchyAdmin) :=
  if r.role ≠ .company ∧ r.role ≠ .superAdmin then
    .error (.unauthorized "Corporate hierarchy view is restricted to Company accounts.")
  else if r.role = .company ∧ (truthy r.companyId).isNone then
    .error (.unauthorized "Unauthorized: missing company context.")
  else .ok <|
    (db.users.rows.filter fun a =>
      a.role = .admin ∧ (r.role = .company → a.companyId = r.companyId)).map fun a =>
        { admin := a
          createdUsers := (db.users.rows.filter fun m =>
            m.createdById = some a.userId ∧ m.role = .marketer).map fun m =>
              { marketer := m
                referredUsers := db.users.rows.filter fun c =>
                  c.referredByMarketerId = some m.userId ∧ c.role = .customer } }

/-- The check in front of the views of one customer accepts the reviewer. -/
def InScope (customerId : String) (r : CustomerReviewer) (db : Database) : Prop :=
  (validateCustomerScoping customerId r db).isOk = true

/-- Some page of this size shows the customer. -/
def Lists (contains : String → String → Bool) (times : CreationTimes) (limit : ℕ)
    (customerId : String) (r : CustomerReviewer) (db : Database) : Prop :=
  ∃ q : CustomerQuery, q.limit = limit ∧ q.search = none ∧ ∃ page,
    listCustomers contains times q r db = .ok page ∧ ∃ item ∈ page.customers,
      item.userId = customerId

def Refuses {α : Type} (answer : Except AppError α) : Prop :=
  ∃ message, answer = .error (.unauthorized message)

/-- The tree of a company shows the customer. -/
def ShowsInHierarchy (customerId : String) (r : CustomerReviewer) (db : Database) : Prop :=
  ∃ admins, getCorporateHierarchy r db = .ok admins ∧ ∃ a ∈ admins, ∃ m ∈ a.createdUsers,
    ∃ c ∈ m.referredUsers, c.userId = customerId

section scoping
variable {db : Database} {r : CustomerReviewer} {c : User}

theorem validateCustomerScoping_cases (hc : db.users.find? c.userId = some c)
    (r : CustomerReviewer) : validateCustomerScoping c.userId r db = .ok c ∨
      Refuses (validateCustomerScoping c.userId r db) := by
  rw [validateCustomerScoping, hc]
  dsimp only
  split
  · split
    · exact .inr ⟨_, rfl⟩
    · exact .inl rfl
  · split
    · exact .inr ⟨_, rfl⟩
    · exact .inl rfl
  · exact .inl rfl
  · split
    · exact .inr ⟨_, rfl⟩
    · exact .inl rfl
  · split
    · exact .inr ⟨_, rfl⟩
    · exact .inl rfl

theorem isOk_guard_iff {P : Prop} [Decidable P] {err : AppError} :
    (if P then (.error err : Except AppError User) else .ok c).isOk = true ↔ ¬ P := by
  split
  · rename_i h
    exact iff_of_false Bool.false_ne_true fun hnot => hnot h
  · rename_i h
    exact iff_of_true rfl h

theorem inScope_iff (hc : db.users.find? c.userId = some c) : InScope c.userId r db ↔
    match r.role with
    | .marketer => c.referredByMarketerId = some r.userId
    | .admin => (referredByMarketer db c).bind User.createdById = some r.userId
    | .superAdmin => True
    | .company => (truthy r.companyId).isSome = true ∧ c.companyId = r.companyId
    | .customer => c.userId = r.userId := by
  rw [InScope, validateCustomerScoping, hc]
  obtain ⟨reviewerId, role, companyId⟩ := r
  cases role with
  | superAdmin => exact iff_of_true rfl trivial
  | admin => exact isOk_guard_iff.trans not_ne_iff
  | marketer => exact isOk_guard_iff.trans not_ne_iff
  | customer => exact isOk_guard_iff.trans not_ne_iff
  | company =>
    refine isOk_guard_iff.trans ?_
    rw [not_or, not_ne_iff, Bool.not_eq_true, Option.isNone_eq_false_iff]

/-- The `where` clause of the list selects whom the check accepts. -/
theorem listScope_iff (hc : db.users.find? c.userId = some c) (hrole : r.role ≠ .customer) :
    (∃ scope, listScope r db = .ok scope ∧ scope c = true) ↔ InScope c.userId r db := by
  rw [inScope_iff hc, listScope]
  obtain ⟨reviewerId, role, companyId⟩ := r
  have hok {scope : User → Bool} : (∃ found : User → Bool,
      (.ok scope : Except AppError (User → Bool)) = .ok found ∧ found c = true) ↔
        scope c = true := by
    constructor
    · rintro ⟨found, he, hscope⟩
      cases he
      exact hscope
    · exact fun hscope => ⟨scope, rfl, hscope⟩
  cases role with
  | superAdmin => exact hok.trans (iff_of_true rfl trivial)
  | marketer => exact hok.trans decide_eq_true_iff
  | customer => exact absurd rfl hrole
  | admin =>
    refine hok.trans ?_
    cases referredByMarketer db c <;> simp
  | company =>
    have hstored {id : String} (h : truthy companyId = some id) : companyId = some id :=
      (Option.filter_eq_some_iff.mp h).1
    cases hcompany : truthy companyId with
    | none =>
      dsimp only
      exact iff_of_false (by rintro ⟨scope, he, -⟩; cases he) fun h => by cases h.1
    | some id =>
      dsimp only
      rw [hok, decide_eq_true_iff, hstored hcompany]
      exact (and_iff_right rfl).symm

section answers
variable {contains : String → String → Bool} {times : CreationTimes}

/-- A page shows the ids of its slice of the rows. -/
theorem exists_customerItem {customers : List User} :
    (∃ item ∈ customers.map (customerItem times db), item.userId = c.userId) ↔
      ∃ u ∈ customers, u.userId = c.userId := by
  simp only [List.mem_map]
  constructor
  · rintro ⟨item, ⟨u, hu, rfl⟩, hid⟩
    exact ⟨u, hu, hid⟩
  · rintro ⟨u, hu, hid⟩
    exact ⟨_, ⟨u, hu, rfl⟩, hid⟩

theorem lists_iff {limit : ℕ} (hpos : 0 < limit) (hle : limit ≤ 100) (hc : c ∈ db.users.rows)
    (hcustomer : c.role = .customer) (hrole : r.role ≠ .customer) :
    Lists contains times limit c.userId r db ↔ InScope c.userId r db := by
  rw [← listScope_iff (Table.find?_of_mem hc) hrole]
  have hsorted (scope : User → Bool) : c ∈ ((db.users.rows.filter fun u =>
      u.role = .customer ∧ searched contains none u ∧ scope u).insertionSort
        fun u v => times.user v.userId ≤ times.user u.userId) ↔ scope c = true := by
    rw [(List.perm_insertionSort _ _).mem_iff, List.mem_filter, decide_eq_true_iff]
    exact ⟨fun h => h.2.2.2, fun h => ⟨hc, hcustomer, rfl, h⟩⟩
  constructor
  · rintro ⟨q, rfl, hsearch, page, hpage, hitem⟩
    obtain ⟨scope, hscope, hpage⟩ := bind_eq_ok.mp hpage
    cases hpage
    obtain ⟨u, hu, hid⟩ := exists_customerItem.mp hitem
    have hrow := slice_sublist.subset hu
    have huser := (List.mem_filter.mp ((List.perm_insertionSort _ _).mem_iff.mp hrow)).1
    obtain rfl := Table.key_injective huser hc hid
    rw [hsearch] at hrow
    exact ⟨scope, hscope, (hsorted scope).mp hrow⟩
  · rintro ⟨scope, hscope, hselected⟩
    obtain ⟨page, hpage, hslice⟩ := (mem_iff_exists_slice hpos).mp ((hsorted scope).mpr hselected)
    exact ⟨{ page, limit, page_pos := hpage, limit_pos := hpos, limit_le := hle }, rfl, rfl, _,
      bind_eq_ok.mpr ⟨scope, hscope, rfl⟩, exists_customerItem.mpr ⟨c, hslice, rfl⟩⟩

/-- What comes after the check is not refused. -/
theorem refuses_iff {α : Type} {view : User → Except AppError α}
    (hc : db.users.find? c.userId = some c) (hview : ∀ u, ¬ Refuses (view u)) :
    Refuses (validateCustomerScoping c.userId r db >>= view) ↔ ¬ InScope c.userId r db := by
  rcases validateCustomerScoping_cases hc r with hok | ⟨message, hrefused⟩
  · rw [InScope, hok]
    exact iff_of_false (hview c) (not_not.mpr rfl)
  · rw [InScope, hrefused]
    exact iff_of_true ⟨message, rfl⟩ Bool.false_ne_true

theorem not_refuses_calculateProgressPercentage (contractId : String) (db : Database) :
    ¬ Refuses (calculateProgressPercentage contractId db) := by
  rintro ⟨message, h⟩
  rw [calculateProgressPercentage] at h
  split at h <;> cases h

theorem not_refuses_bind {α β : Type} {x : Except AppError α} {f : α → Except AppError β}
    (hx : ¬ Refuses x) (hf : ∀ a, ¬ Refuses (f a)) : ¬ Refuses (x >>= f) := by
  rintro ⟨message, h⟩
  cases x with
  | error err =>
    cases h
    exact hx ⟨message, rfl⟩
  | ok a => exact hf a ⟨message, h⟩

theorem not_refuses_mapM {α β : Type} {f : α → Except AppError β} (hf : ∀ a, ¬ Refuses (f a))
    (as : List α) : ¬ Refuses (as.mapM f) := by
  induction as with
  | nil => rintro ⟨message, h⟩; cases h
  | cons a as ih =>
    rw [List.mapM_cons]
    exact not_refuses_bind (hf a) fun b => not_refuses_bind ih fun bs => by
      rintro ⟨message, h⟩
      cases h

theorem refuses_getCustomerProducts_iff (hc : db.users.find? c.userId = some c) :
    Refuses (getCustomerProducts c.userId r db) ↔ ¬ InScope c.userId r db := by
  refine refuses_iff hc fun u => not_refuses_mapM (fun f => ?_) _
  refine not_refuses_bind (not_refuses_calculateProgressPercentage _ _) fun stats => ?_
  rintro ⟨message, h⟩
  cases h

theorem refuses_getInstallmentSchedule_iff (hc : db.users.find? c.userId = some c)
    (productId : String) :
    Refuses (getInstallmentSchedule times c.userId productId r db) ↔ ¬ InScope c.userId r db := by
  refine refuses_iff hc fun u => ?_
  split
  · rintro ⟨message, h⟩
    cases h
  · refine not_refuses_bind (not_refuses_calculateProgressPercentage _ _) fun progress => ?_
    rintro ⟨message, h⟩
    cases h

theorem refuses_getCustomerPaymentHistory_iff (hc : db.users.find? c.userId = some c) :
    Refuses (getCustomerPaymentHistory times c.userId r db) ↔ ¬ InScope c.userId r db := by
  refine refuses_iff hc fun u => ?_
  rintro ⟨message, h⟩
  cases h

/-- The tree of a company shows whom its admins reach through a marketer. -/
theorem showsInHierarchy_iff (hc : c ∈ db.users.rows) (hcustomer : c.role = .customer)
    (hrole : r.role = .company) (hcompany : (truthy r.companyId).isSome = true) :
    ShowsInHierarchy c.userId r db ↔
      (referredByMarketer db c).any (fun m => m.role = .marketer) = true ∧
      ∃ a ∈ db.users.rows, a.role = .admin ∧ a.companyId = r.companyId ∧
        InScope c.userId ⟨a.userId, .admin, a.companyId⟩ db := by
  have hfind : db.users.find? c.userId = some c := Table.find?_of_mem hc
  simp only [ShowsInHierarchy, inScope_iff hfind]
  rw [getCorporateHierarchy, if_neg fun h => h.1 hrole, if_neg fun h => by simp_all]
  constructor
  · rintro ⟨admins, hadmins, a, ha, m, hm, d, hd, hid⟩
    cases hadmins
    obtain ⟨admin, hadmin, rfl⟩ := List.mem_map.mp ha
    obtain ⟨hadmin, hpredicate⟩ := List.mem_filter.mp hadmin
    obtain ⟨harole, hacompany⟩ := of_decide_eq_true hpredicate
    obtain ⟨marketer, hmarketer, rfl⟩ := List.mem_map.mp hm
    obtain ⟨hmarketer, hpredicate⟩ := List.mem_filter.mp hmarketer
    obtain ⟨hcreated, hmrole⟩ := of_decide_eq_true hpredicate
    obtain ⟨hd, hpredicate⟩ := List.mem_filter.mp hd
    obtain ⟨hreferred, -⟩ := of_decide_eq_true hpredicate
    obtain rfl := Table.key_injective hd hc hid
    have hreferrer : referredByMarketer db d = some marketer := by
      rw [referredByMarketer, hreferred]
      exact Table.find?_of_mem hmarketer
    rw [hreferrer]
    exact ⟨decide_eq_true hmrole, admin, hadmin, harole, hacompany hrole, hcreated⟩
  · rintro ⟨hmarketer, a, ha, harole, hacompany, hcreated⟩
    obtain ⟨m, hreferrer, hmrole⟩ := (Option.any_eq_true _ _).mp hmarketer
    rw [hreferrer, Option.bind_some] at hcreated
    obtain ⟨id, hreferred, hm⟩ := Option.bind_eq_some_iff.mp hreferrer
    obtain rfl := Table.find?_key hm
    refine ⟨_, rfl, _, List.mem_map_of_mem (List.mem_filter.mpr
      ⟨ha, decide_eq_true ⟨harole, fun _ => hacompany⟩⟩), _, List.mem_map_of_mem
        (List.mem_filter.mpr ⟨Table.mem_of_find? hm, decide_eq_true ⟨hcreated, ?_⟩⟩), c,
        List.mem_filter.mpr ⟨hc, decide_eq_true ⟨hreferred, hcustomer⟩⟩, rfl⟩
    exact of_decide_eq_true hmrole

end answers
end scoping

/-- One scope for all views: of each customer, the list of a reviewer shows exactly those whose
products, schedules and payments it is not refused; the tree of a company shows exactly those
whom a marketer has referred and one of its admins is shown. -/
theorem customer_views_agree (contains : String → String → Bool) (times : CreationTimes)
    {db : Database} {c : User} (hc : c ∈ db.users.rows) (hcustomer : c.role = .customer)
    {limit : ℕ} (hpos : 0 < limit) (hle : limit ≤ 100) :
    (∀ r : CustomerReviewer, r.role ≠ .customer →
      (Lists contains times limit c.userId r db ↔
        ¬ Refuses (getCustomerProducts c.userId r db)) ∧
      (∀ productId, Lists contains times limit c.userId r db ↔
        ¬ Refuses (getInstallmentSchedule times c.userId productId r db)) ∧
      (Lists contains times limit c.userId r db ↔
        ¬ Refuses (getCustomerPaymentHistory times c.userId r db))) ∧
    ∀ r : CustomerReviewer, r.role = .company → (truthy r.companyId).isSome = true →
      (ShowsInHierarchy c.userId r db ↔
        (referredByMarketer db c).any (fun m => m.role = .marketer) = true ∧
        ∃ a ∈ db.users.rows, a.role = .admin ∧ a.companyId = r.companyId ∧
          Lists contains times limit c.userId ⟨a.userId, .admin, a.companyId⟩ db) := by
  have hfind : db.users.find? c.userId = some c := Table.find?_of_mem hc
  constructor
  · intro r hrole
    have hlists : Lists contains times limit c.userId r db ↔ InScope c.userId r db :=
      lists_iff hpos hle hc hcustomer hrole
    refine ⟨hlists.trans ?_, fun productId => hlists.trans ?_, hlists.trans ?_⟩
    · rw [refuses_getCustomerProducts_iff hfind, not_not]
    · rw [refuses_getInstallmentSchedule_iff hfind, not_not]
    · rw [refuses_getCustomerPaymentHistory_iff hfind, not_not]
  · intro r hrole hcompany
    rw [showsInHierarchy_iff hc hcustomer hrole hcompany]
    refine and_congr_right fun _ => exists_congr fun a => and_congr_right fun _ =>
      and_congr_right fun _ => and_congr_right fun _ => ?_
    exact (lists_iff hpos hle hc hcustomer (by simp)).symm

end CustomerManagementService

/-- A company with an admin, the admin's marketer, and two customers: the marketer's, who is of
no company, and the company's own -/
def customerBase : Database where
  users := ⟨[{ userId := "admin", role := .admin, companyId := some "shop" },
    { userId := "mark", role := .marketer, companyId := some "shop", createdById := some "admin" },
    { userId := "ada", name := some "Ada", referredByMarketerId := some "mark" },
    { userId := "bo", name := some "Bo", companyId := some "shop" }], by decide⟩

def ada : User :=
  { userId := "ada", name := some "Ada", referredByMarketerId := some "mark" }

theorem ada_mem : ada ∈ customerBase.users.rows := by simp [customerBase, ada]

def atOnce : CreationTimes := ⟨fun _ => 0, fun _ => 0, fun _ => 0⟩

namespace CustomerManagementService

/-- The company finds Ada in its tree, but not in its list. -/
theorem customer_views_agree_on_ada :
    ((listCustomers (fun _ _ => false) atOnce {} ⟨"owner", .company, some "shop"⟩
        customerBase).toOption.map fun page => page.customers.map fun item => item.userId) =
          some ["bo"] ∧
    ((listCustomers (fun _ _ => false) atOnce {} ⟨"admin", .admin, some "shop"⟩
        customerBase).toOption.map fun page => page.customers.map fun item => item.userId) =
          some ["ada"] ∧
    (ShowsInHierarchy "ada" ⟨"owner", .company, some "shop"⟩ customerBase ↔
      (referredByMarketer customerBase ada).any (fun m => m.role = .marketer) = true ∧
      ∃ a ∈ customerBase.users.rows, a.role = .admin ∧ a.companyId = some "shop" ∧
        Lists (fun _ _ => false) atOnce 20 "ada" ⟨a.userId, .admin, a.companyId⟩ customerBase) :=
  ⟨by decide +kernel, by decide +kernel,
    (customer_views_agree (fun _ _ => false) atOnce ada_mem rfl (by decide) (by decide)).2 _ rfl
      rfl⟩

end CustomerManagementService
end InstalFlow
