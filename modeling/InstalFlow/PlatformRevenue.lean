import InstalFlow.InstallmentQueries
import InstalFlow.LedgerReconciliation
import InstalFlow.MarketerBalances
import InstalFlow.OutstandingBalances
import InstalFlow.Relational.Grouping
import InstalFlow.Relational.OrderBy

/-!
# What the platform earns

The leaderboards order tenants by the balance of their PLATFORM_REVENUE account, and products by
what is financed of them. Neither has a second column, so what is at a place is determined, and
who is there is not where two have earned the same.
-/

namespace InstalFlow
open Relational LedgerService Transition

def SortOrder.rel : SortOrder → ℚ → ℚ → Prop
  | .asc => (· ≤ ·)
  | .desc => (· ≥ ·)

namespace SortOrder

instance : (s : SortOrder) → DecidableRel s.rel
  | .asc => fun a b => inferInstanceAs (Decidable (a ≤ b))
  | .desc => fun a b => inferInstanceAs (Decidable (b ≤ a))

instance : (s : SortOrder) → Std.Antisymm s.rel
  | .asc => ⟨fun _ _ => le_antisymm⟩
  | .desc => ⟨fun _ _ hab hba => le_antisymm hba hab⟩

instance : (s : SortOrder) → Std.Total s.rel
  | .asc => ⟨le_total⟩
  | .desc => ⟨fun a b => le_total b a⟩

instance : (s : SortOrder) → IsTrans ℚ s.rel
  | .asc => ⟨fun _ _ _ => le_trans⟩
  | .desc => ⟨fun _ _ _ hab hbc => le_trans hbc hab⟩

end SortOrder

structure LeaderboardQuery where
  page : ℕ := 1
  limit : ℕ := 20
  page_pos : 0 < page := by decide
  limit_pos : 0 < limit := by decide
  limit_le : limit ≤ 100 := by decide

namespace LeaderboardQuery

/-- The same query for the page behind the first `i` -/
def atPage (q : LeaderboardQuery) (i : ℕ) : LeaderboardQuery :=
  { q with page := i + 1, page_pos := i.succ_pos }

end LeaderboardQuery

structure LeaderboardPagination where
  total : ℕ
  page : ℕ
  limit : ℕ
  totalPages : ℕ

structure TenantRow where
  companyId : Option String
  name : Option String
  plan : Option String
  platformRevenue : ℚ
  gmv : ℚ

structure TenantLeaderboard where
  pagination : LeaderboardPagination
  tenants : List TenantRow

structure CompanyName where
  companyId : String
  name : String

structure ProductRow where
  productId : String
  name : Option String
  slug : Option String
  company : Option CompanyName
  status : Option ProductStatus
  contractsCount : ℕ
  totalFinanced : ℚ
  commissionsPaid : ℚ

structure ProductLeaderboard where
  pagination : LeaderboardPagination
  products : List ProductRow

/-- What a `groupBy` of the contracts has of a product -/
structure ProductGroup where
  productId : String
  contractsCount : ℕ
  totalFinanced : ℚ

structure RevenueTransaction where
  reference : String
  description : Option String
  amount : ℚ
  occurredAt : DateTime

structure TenantRevenue where
  tenant : Company
  total : ℚ
  transactions : List RevenueTransaction
  totalFinanced : ℚ
  totalCollected : ℚ
  activeContracts : ℕ
  completedContracts : ℕ
  totalPaidOut : ℚ

structure TopTenant where
  companyId : Option String
  name : Option String
  platformRevenue : ℚ

structure TopProduct where
  productId : String
  name : Option String
  company : Option CompanyName
  totalFinanced : ℚ

structure PlanCount where
  plan : String
  count : ℕ

structure PlatformOverview where
  tenants : ℕ
  byPlan : List PlanCount
  allTime : ℚ
  thisMonth : ℚ
  gmvTotal : ℚ
  activeContracts : ℕ
  topTenantsByRevenue : List TopTenant
  topProductsByGmv : List TopProduct

/-- `ACTIVE_OR_COMPLETED` -/
def FinancingStatus.activeOrCompleted : FinancingStatus → Bool
  | .active | .completed => true
  | _ => false

/-- `setDate(1)` and `setHours(0, 0, 0, 0)` -/
def DateTime.startOfMonth (t : DateTime) : DateTime :=
  CalendarDate.toDays { CalendarDate.ofDays (t / msPerDay) with day := 1 } * msPerDay

namespace ProductGroup

def ofProduct (productId : String) : ProductGroup := ⟨productId, 0, 0⟩

def plus (c : FinancingContract) (g : ProductGroup) : ProductGroup :=
  { g with
    contractsCount := g.contractsCount + 1
    totalFinanced := g.totalFinanced + c.totalFinanced }

theorem accumulates_totalFinanced : Accumulates productId ofProduct plus totalFinanced
    FinancingContract.totalFinanced :=
  ⟨fun _ _ => rfl, fun _ => rfl, fun _ _ => rfl⟩

theorem accumulates_contractsCount : Accumulates productId ofProduct plus contractsCount
    fun _ : FinancingContract => 1 :=
  ⟨fun _ _ => rfl, fun _ => rfl, fun _ _ => rfl⟩

end ProductGroup

namespace PlanCount

def ofPlan (plan : String) : PlanCount := ⟨plan, 0⟩

def plus (_ : Company) (p : PlanCount) : PlanCount := { p with count := p.count + 1 }

theorem accumulates : Accumulates plan ofPlan plus count fun _ => 1 :=
  ⟨fun _ _ => rfl, fun _ => rfl, fun _ _ => rfl⟩

end PlanCount

/-- The order in which the rows of each query come; `times` has when each line of the journal was
written. -/
structure RevenueOrders (times : ℕ → DateTime) where
  tenants : OrderBy LedgerAccount.balance SortOrder.desc.rel
  products : OrderBy ProductGroup.totalFinanced SortOrder.desc.rel
  lines : OrderBy (fun line : JournalEntry × ℕ => times line.2) (· ≥ ·)

namespace PlatformRevenueService

def toNumber (value : ℚ) : ℚ := Binary64.nearest value

def isRevenueAccount (a : LedgerAccount) : Bool := a.name = "PLATFORM_REVENUE" ∧ a.companyId.isSome

def revenueAccounts (db : Database) : List LedgerAccount :=
  db.ledger.accounts.filter isRevenueAccount

def companyOf (companyId : Option String) (db : Database) : Option Company :=
  companyId.bind db.companies.find?

/-- `product: { companyId }` -/
def soldBy (companyId : Option String) (db : Database) (c : FinancingContract) : Bool :=
  (db.products.find? c.productId).any fun p => p.companyId = companyId

def tenantRow (db : Database) (account : LedgerAccount) : TenantRow where
  companyId := account.companyId
  name := (companyOf account.companyId db).map Company.name
  plan := (companyOf account.companyId db).map Company.plan
  platformRevenue := toNumber account.balance
  gmv := toNumber (db.financingContracts.sumWhere (soldBy account.companyId db)
    FinancingContract.totalFinanced)

def paginationOf (q : LeaderboardQuery) (total : ℕ) : LeaderboardPagination where
  total := total
  page := q.page
  limit := q.limit
  totalPages := (total + q.limit - 1) / q.limit

def getTenantRevenueLeaderboard (q : LeaderboardQuery) {sortOrder : SortOrder}
    (order : OrderBy LedgerAccount.balance sortOrder.rel) (db : Database) : TenantLeaderboard :=
  let accounts := revenueAccounts db
  { pagination := paginationOf q accounts.length
    tenants := (slice q.page q.limit (order.sort accounts)).map (tenantRow db) }

def productGroups (db : Database) : List ProductGroup :=
  groupWith ProductGroup.productId (fun c => some c.productId) .ofProduct .plus
    (db.financingContracts.rows.filter fun c => c.status.activeOrCompleted)

def companyName (companyId : Option String) (db : Database) : Option CompanyName :=
  (companyOf companyId db).map fun company => ⟨company.companyId, company.name⟩

def commissionsPaid (productId : String) (db : Database) : ℚ :=
  db.commissions.sumWhere (fun c => (AnalyticsService.contractOf c db).any fun contract =>
    contract.productId = productId) Commission.amount

def productRow (db : Database) (g : ProductGroup) : ProductRow :=
  let product := db.products.find? g.productId
  { productId := g.productId
    name := product.map Product.name
    slug := product.map Product.slug
    company := product.bind fun p => companyName p.companyId db
    status := product.map Product.status
    contractsCount := g.contractsCount
    totalFinanced := toNumber g.totalFinanced
    commissionsPaid := toNumber (commissionsPaid g.productId db) }

/-- `financingContracts: { some: { status: { in: ACTIVE_OR_COMPLETED } } }` -/
def isFinanced (db : Database) (p : Product) : Bool :=
  db.financingContracts.rows.any fun c => c.productId = p.productId ∧ c.status.activeOrCompleted

def getProductRevenueLeaderboard (q : LeaderboardQuery)
    (order : OrderBy ProductGroup.totalFinanced SortOrder.desc.rel) (db : Database) :
    ProductLeaderboard where
  pagination := paginationOf q (db.products.rows.countP (isFinanced db))
  products := (slice q.page q.limit (order.sort (productGroups db))).map (productRow db)

/-- The lines of an account, with their places in the journal -/
def linesOf (account : LedgerAccount → Bool) (l : Ledger) : List (JournalEntry × ℕ) :=
  l.entries.zipIdx.filter fun line => (l.accounts[line.1.ledgerAccountId]?).any account

def revenueTransaction (times : ℕ → DateTime) (l : Ledger) (line : JournalEntry × ℕ) :
    RevenueTransaction where
  reference := line.1.transactionReference
  description := (l.transactions.find? line.1.transactionReference).map
    FinancialTransaction.description
  amount := toNumber line.1.credit
  occurredAt := times line.2

def getTenantRevenue (companyId : String) {times : ℕ → DateTime} (orders : RevenueOrders times)
    (db : Database) : Except AppError TenantRevenue :=
  match db.companies.find? companyId with
  | none => .error (.notFound "Tenant not found.")
  | some company =>
    let isOwn := isAccount "PLATFORM_REVENUE" (some companyId)
    let account := db.ledger.accounts.find? isOwn
    let sold := soldBy (some companyId) db
    .ok {
      tenant := company
      total := toNumber ((account.map LedgerAccount.balance).getD 0)
      transactions := ((orders.lines.sort (linesOf isOwn db.ledger)).take 50).map
        (revenueTransaction times db.ledger)
      totalFinanced := toNumber (db.financingContracts.sumWhere sold
        FinancingContract.totalFinanced)
      totalCollected := toNumber (db.installments.sumWhere (fun i => i.status = .paid ∧
        (db.financingContracts.find? i.financingContractId).any sold) Installment.amount)
      activeContracts := db.financingContracts.rows.countP fun c => sold c ∧ c.status = .active
      completedContracts := db.financingContracts.rows.countP fun c =>
        sold c ∧ c.status = .completed
      totalPaidOut := toNumber (db.merchantSettlementRequests.sumWhere (fun s =>
        s.companyId = companyId ∧ s.status = .transferSuccess) MerchantSettlementRequest.amount) }

def topTenant (db : Database) (account : LedgerAccount) : TopTenant where
  companyId := account.companyId
  name := (companyOf account.companyId db).map Company.name
  platformRevenue := toNumber account.balance

def topProduct (db : Database) (g : ProductGroup) : TopProduct :=
  let product := db.products.find? g.productId
  { productId := g.productId
    name := product.map Product.name
    company := product.bind fun p => companyName p.companyId db
    totalFinanced := toNumber g.totalFinanced }

def getPlatformOverview {times : ℕ → DateTime} (orders : RevenueOrders times) (now : DateTime)
    (db : Database) : PlatformOverview :=
  let tenantsByPlan := groupWith PlanCount.plan (fun c => some c.plan) .ofPlan .plus
    db.companies.rows
  { tenants := tenantsByPlan.foldl (fun acc row => acc + row.count) 0
    byPlan := tenantsByPlan
    allTime := toNumber ((revenueAccounts db).map LedgerAccount.balance).sum
    thisMonth := toNumber (((linesOf isRevenueAccount db.ledger).filter fun line =>
      now.startOfMonth ≤ times line.2).map fun line => line.1.credit).sum
    gmvTotal := toNumber (db.financingContracts.rows.map FinancingContract.totalFinanced).sum
    activeContracts := db.financingContracts.rows.countP fun c => c.status = .active
    topTenantsByRevenue := ((orders.tenants.sort (revenueAccounts db)).take 5).map (topTenant db)
    topProductsByGmv := ((orders.products.sort (productGroups db)).take 5).map (topProduct db) }

end PlatformRevenueService

open PlatformRevenueService

/-- Every tenant is on some page of each leaderboard, in whatever order each page is queried. -/
def TenantsListed (db : Database) : Prop :=
  ∀ (q : LeaderboardQuery) (sortOrder : SortOrder)
    (orders : ℕ → OrderBy LedgerAccount.balance sortOrder.rel), ∀ a ∈ revenueAccounts db,
    ∃ i, ∃ row ∈ (getTenantRevenueLeaderboard (q.atPage i) (orders i) db).tenants,
      row.companyId = a.companyId

/-- The revenues of the tenants, in order -/
def revenueRanking (sortOrder : SortOrder) (db : Database) : List ℚ :=
  OrderBy.ranking (R := sortOrder.rel) LedgerAccount.balance (revenueAccounts db)

/-- The pages show the ranking, the overview its first five and its sum, which is what the journal
has of the accounts, and the page of a tenant what it has in the leaderboard. -/
structure TenantsRanked (db : Database) : Prop where
  pages : ∀ (q : LeaderboardQuery) (sortOrder : SortOrder)
    (orders : ℕ → OrderBy LedgerAccount.balance sortOrder.rel) (n : ℕ),
    ((List.range n).flatMap fun i => (getTenantRevenueLeaderboard (q.atPage i) (orders i)
      db).tenants.map TenantRow.platformRevenue) =
        ((revenueRanking sortOrder db).take (n * q.limit)).map toNumber
  top : ∀ {times : ℕ → DateTime} (orders : RevenueOrders times) (now : DateTime),
    (getPlatformOverview orders now db).topTenantsByRevenue.map TopTenant.platformRevenue =
      ((revenueRanking .desc db).take 5).map toNumber
  allTime : ∀ {times : ℕ → DateTime} (orders : RevenueOrders times) (now : DateTime),
    (getPlatformOverview orders now db).allTime =
      toNumber ((db.ledger.accounts.zipIdx.filter fun a => isRevenueAccount a.1).map fun a =>
        db.ledger.canonicalBalance a.2 a.1.type).sum
  own : ∀ {times : ℕ → DateTime} (orders : RevenueOrders times), ∀ a ∈ revenueAccounts db,
    ∀ company ∈ companyOf a.companyId db, ∃ revenue,
      getTenantRevenue company.companyId orders db = .ok revenue ∧
        revenue.total = (tenantRow db a).platformRevenue ∧
        revenue.totalFinanced = (tenantRow db a).gmv
  listed : TenantsListed db ↔ ((revenueAccounts db).map LedgerAccount.balance).Nodup

section tenants
variable {db : Database} {l : Ledger} {a b : LedgerAccount}

theorem Ledger.Sound.run (calls : List LedgerCall) :
    Ledger.Sound (Transition.run LedgerCall.step {} calls) :=
  run_invariant (I := Ledger.Sound) (fun _ call h => LedgerCall.step_sound call h)
    Ledger.Sound.empty calls

theorem LedgerCall.step_wellFormed (call : LedgerCall) (h : l.WellFormed) :
    (call.step l).WellFormed := by
  cases call with
  | record data => exact h.record data
  | correct uuid data =>
    rw [LedgerCall.step, LedgerCall.apply, postManualCorrection]
    split
    · exact h
    · exact h.record { data with reference := "CORR-" ++ uuid }

theorem Ledger.Distinct.find?_eq (h : l.Distinct) (ha : a ∈ l.accounts) :
    l.accounts.find? (isAccount a.name a.companyId) = some a := by
  obtain ⟨b, hb⟩ := Option.isSome_iff_exists.mp
    (List.find?_isSome (p := isAccount a.name a.companyId) |>.mpr ⟨a, ha, by simp [isAccount]⟩)
  have hkey : b.name = a.name ∧ b.companyId = a.companyId := by
    simpa [isAccount] using List.find?_some hb
  rw [hb, List.inj_on_of_nodup_map h (List.mem_of_find?_eq_some hb) ha
    (Prod.ext hkey.1 hkey.2)]

theorem mem_revenueAccounts : a ∈ revenueAccounts db ↔
    a ∈ db.ledger.accounts ∧ a.name = "PLATFORM_REVENUE" ∧ a.companyId.isSome = true := by
  rw [revenueAccounts, List.mem_filter, isRevenueAccount, decide_eq_true_iff]

theorem nodup_revenueAccounts (h : db.ledger.Distinct) : (revenueAccounts db).Nodup :=
  (List.Nodup.of_map _ h).filter _

theorem revenueAccount_eq (h : db.ledger.Distinct) (ha : a ∈ revenueAccounts db)
    (hb : b ∈ revenueAccounts db) (hcompany : a.companyId = b.companyId) : a = b := by
  obtain ⟨ha, hname, -⟩ := mem_revenueAccounts.mp ha
  obtain ⟨hb, hname', -⟩ := mem_revenueAccounts.mp hb
  exact List.inj_on_of_nodup_map h ha hb (Prod.ext (hname.trans hname'.symm) hcompany)

theorem sum_revenueAccounts (h : ∀ id, db.ledger.drift id = 0) :
    ((revenueAccounts db).map LedgerAccount.balance).sum =
      ((db.ledger.accounts.zipIdx.filter fun a => isRevenueAccount a.1).map fun a =>
        db.ledger.canonicalBalance a.2 a.1.type).sum := by
  have hrows : revenueAccounts db =
      (db.ledger.accounts.zipIdx.filter fun a => isRevenueAccount a.1).map Prod.fst := by
    rw [revenueAccounts]
    conv_lhs => rw [← List.zipIdx_map_fst 0 db.ledger.accounts]
    rw [List.filter_map]
    rfl
  rw [hrows, List.map_map]
  refine congrArg List.sum (List.map_congr_left fun a ha => ?_)
  have hplace := List.mem_zipIdx_iff_getElem?.mp (List.mem_filter.mp ha).1
  exact Ledger.balance_eq_canonical h hplace

/-- Where two tenants have earned the same, one of them can be missed. -/
theorem tenantsListed_iff (h : db.ledger.Distinct) :
    TenantsListed db ↔ ((revenueAccounts db).map LedgerAccount.balance).Nodup := by
  constructor
  · intro hlisted
    by_contra htwice
    obtain ⟨orders, a, ha, hmissed⟩ := OrderBy.exists_missed
      (OrderBy.insertion (R := SortOrder.desc.rel) LedgerAccount.balance) (nodup_revenueAccounts h)
      htwice
    obtain ⟨i, row, hrow, hcompany⟩ := hlisted { limit := 1 } .desc (fun i => orders (i + 1)) a ha
    obtain ⟨b, hb, rfl⟩ := List.mem_map.mp hrow
    have hbmem : b ∈ revenueAccounts db := ((orders (i + 1)).mem_sort).mp (slice_sublist.subset hb)
    obtain rfl := revenueAccount_eq h hbmem ha hcompany
    exact hmissed (i + 1) i.succ_pos hb
  · intro hvalues q sortOrder orders a ha
    obtain ⟨page, hpage, hmem⟩ := OrderBy.exists_page q.limit_pos hvalues
      (fun page => orders (page - 1)) ha
    obtain ⟨i, rfl⟩ : ∃ i, page = i + 1 := ⟨page - 1, by omega⟩
    exact ⟨i, tenantRow db a, List.mem_map.mpr ⟨a, hmem, rfl⟩, rfl⟩

end tenants

/-- After any calls of the ledger, the pages of the tenants show the ranking of what their accounts
have according to the journal, and every tenant, whatever the order of each page, exactly when no
two have earned the same. -/
theorem tenants_ranked (calls : List LedgerCall) (db : Database)
    (hledger : db.ledger = run LedgerCall.step {} calls) : TenantsRanked db := by
  have hsound : db.ledger.Sound := hledger ▸ Ledger.Sound.run calls
  have hdistinct : db.ledger.Distinct := by
    rw [hledger]
    exact (run_invariant (I := Ledger.WellFormed) (fun _ call h => call.step_wellFormed h)
      Ledger.wellFormed_empty calls).distinct
  refine ⟨fun q sortOrder orders n => ?_, fun orders now => ?_, fun orders now => ?_,
    fun orders a ha company hcompany => ?_, tenantsListed_iff hdistinct⟩
  · have hpages := OrderBy.map_pages orders q.limit n (revenueAccounts db)
    rw [revenueRanking, ← hpages, OrderBy.pages, List.map_flatMap, List.map_flatMap]
    refine congrArg (fun f => (List.range n).flatMap f) (funext fun i => ?_)
    rw [getTenantRevenueLeaderboard, List.map_map, List.map_map]
    rfl
  · have hvalues := orders.tenants.map_sort (revenueAccounts db)
    rw [revenueRanking, ← hvalues, ← List.map_take, List.map_map, getPlatformOverview, List.map_map]
    rfl
  · rw [getPlatformOverview, sum_revenueAccounts hsound.drift]
  · obtain ⟨hmem, hname, hsome⟩ := mem_revenueAccounts.mp ha
    obtain ⟨companyId, hid, hfind⟩ := Option.bind_eq_some_iff.mp hcompany
    have hkey := Table.find?_key hfind
    have hown := hdistinct.find?_eq hmem
    rw [hname, hid, ← hkey] at hown
    rw [getTenantRevenue, hkey, hfind]
    refine ⟨_, rfl, ?_, ?_⟩
    · dsimp only
      rw [← hkey, hown]
      rfl
    · dsimp only
      rw [tenantRow, hid]

/-- Two tenants have paid for their plans, one of them twice. -/
def paidPlans : List LedgerCall :=
  [.record (SubscriptionService.revenuePosting "r₁" "Onboarding Subscription" "firm" 50),
    .record (SubscriptionService.revenuePosting "r₂" "Onboarding Subscription" "shop" 70),
    .record (SubscriptionService.revenuePosting "r₃" "Subscription Payment: Pro" "firm" 30)]

theorem tenants_ranked_two_tenants :
    TenantsRanked { ledger := run LedgerCall.step {} paidPlans } ∧
    revenueRanking .desc { ledger := run LedgerCall.step {} paidPlans } = [80, 70] :=
  ⟨tenants_ranked paidPlans _ rfl, by decide +kernel⟩

def financedContracts (db : Database) : List FinancingContract :=
  db.financingContracts.rows.filter fun c => c.status.activeOrCompleted

/-- Every product that is financed is on some page, in whatever order each page is queried. -/
def ProductsListed (db : Database) : Prop :=
  ∀ (q : LeaderboardQuery) (orders : ℕ → OrderBy ProductGroup.totalFinanced SortOrder.desc.rel),
    ∀ c ∈ financedContracts db, ∃ i, ∃ row ∈ (getProductRevenueLeaderboard (q.atPage i) (orders i)
      db).products, row.productId = c.productId

/-- What is financed of the products, in order -/
def gmvRanking (db : Database) : List ℚ :=
  OrderBy.ranking (R := SortOrder.desc.rel) ProductGroup.totalFinanced (productGroups db)

/-- The pages show what is financed of each product and by how many contracts, and the overview the
first five. -/
structure ProductsRanked (db : Database) : Prop where
  totals : Grouped ProductGroup.productId (fun c => some c.productId) ProductGroup.totalFinanced
    FinancingContract.totalFinanced (financedContracts db) (productGroups db)
  counts : Grouped ProductGroup.productId (fun c => some c.productId) ProductGroup.contractsCount
    (fun _ => 1) (financedContracts db) (productGroups db)
  pages : ∀ (q : LeaderboardQuery)
    (orders : ℕ → OrderBy ProductGroup.totalFinanced SortOrder.desc.rel) (n : ℕ),
    ((List.range n).flatMap fun i => (getProductRevenueLeaderboard (q.atPage i) (orders i)
      db).products.map ProductRow.totalFinanced) =
        ((gmvRanking db).take (n * q.limit)).map toNumber
  rows : ∀ (q : LeaderboardQuery) (order : OrderBy ProductGroup.totalFinanced SortOrder.desc.rel),
    ∀ row ∈ (getProductRevenueLeaderboard q order db).products, ∃ g ∈ productGroups db,
      row = productRow db g
  total : ∀ (q : LeaderboardQuery) (order : OrderBy ProductGroup.totalFinanced SortOrder.desc.rel),
    (getProductRevenueLeaderboard q order db).pagination.total = (gmvRanking db).length
  top : ∀ {times : ℕ → DateTime} (orders : RevenueOrders times) (now : DateTime),
    (getPlatformOverview orders now db).topProductsByGmv.map TopProduct.totalFinanced =
      ((gmvRanking db).take 5).map toNumber
  listed : ProductsListed db ↔ ((productGroups db).map ProductGroup.totalFinanced).Nodup

section products
variable {db : Database}

theorem grouped_totalFinanced (db : Database) : Grouped ProductGroup.productId
    (fun c => some c.productId) ProductGroup.totalFinanced FinancingContract.totalFinanced
      (financedContracts db) (productGroups db) :=
  grouped_groupWith ProductGroup.accumulates_totalFinanced (fun c => some c.productId)
    (financedContracts db)

theorem grouped_contractsCount (db : Database) : Grouped ProductGroup.productId
    (fun c => some c.productId) ProductGroup.contractsCount (fun _ => 1) (financedContracts db)
      (productGroups db) :=
  grouped_groupWith ProductGroup.accumulates_contractsCount (fun c => some c.productId)
    (financedContracts db)

theorem isFinanced_iff {p : Product} :
    isFinanced db p = true ↔ ∃ c ∈ financedContracts db, c.productId = p.productId := by
  simp only [isFinanced, financedContracts, List.any_eq_true, List.mem_filter, decide_eq_true_eq]
  constructor
  · rintro ⟨c, hc, hof, hstatus⟩
    exact ⟨c, ⟨hc, hstatus⟩, hof⟩
  · rintro ⟨c, ⟨hc, hstatus⟩, hof⟩
    exact ⟨c, hc, hof, hstatus⟩

/-- The products that are counted are those that have a group. -/
theorem countP_isFinanced
    (hproducts : ∀ c ∈ db.financingContracts.rows, (db.products.find? c.productId).isSome = true) :
    db.products.rows.countP (isFinanced db) = (productGroups db).length := by
  have hgroups := grouped_totalFinanced db
  have hnodup : ((db.products.rows.filter (isFinanced db)).map Product.productId).Nodup :=
    db.products.unique.sublist (List.filter_sublist.map _)
  have hperm : ((db.products.rows.filter (isFinanced db)).map Product.productId).Perm
      ((productGroups db).map ProductGroup.productId) := by
    refine (List.perm_ext_iff_of_nodup hnodup hgroups.nodup).mpr fun k => ?_
    rw [hgroups.keys, List.mem_map]
    constructor
    · rintro ⟨p, hp, rfl⟩
      obtain ⟨c, hc, hof⟩ := isFinanced_iff.mp (List.mem_filter.mp hp).2
      exact ⟨c, hc, congrArg some hof⟩
    · rintro ⟨c, hc, hof⟩
      obtain rfl := Option.some.inj hof
      obtain ⟨p, hp⟩ := Option.isSome_iff_exists.mp (hproducts c (List.mem_of_mem_filter hc))
      have hkey := Table.find?_key hp
      exact ⟨p, List.mem_filter.mpr ⟨Table.mem_of_find? hp, isFinanced_iff.mpr ⟨c, hc, hkey.symm⟩⟩,
        hkey⟩
  rw [List.countP_eq_length_filter, ← List.length_map Product.productId, hperm.length_eq,
    List.length_map]

theorem nodup_productGroups (db : Database) : (productGroups db).Nodup :=
  List.Nodup.of_map _ (grouped_totalFinanced db).nodup

/-- Where the same is financed of two products, one of them can be missed. -/
theorem productsListed_iff :
    ProductsListed db ↔ ((productGroups db).map ProductGroup.totalFinanced).Nodup := by
  have hgroups := grouped_totalFinanced db
  constructor
  · intro hlisted
    by_contra htwice
    obtain ⟨orders, g, hg, hmissed⟩ := OrderBy.exists_missed
      (OrderBy.insertion (R := SortOrder.desc.rel) ProductGroup.totalFinanced)
      (nodup_productGroups db) htwice
    obtain ⟨c, hc, hof⟩ := (hgroups.keys g.productId).mp (List.mem_map_of_mem hg)
    obtain ⟨i, row, hrow, hproduct⟩ := hlisted { limit := 1 } (fun i => orders (i + 1)) c hc
    obtain ⟨d, hd, rfl⟩ := List.mem_map.mp hrow
    have hdmem : d ∈ productGroups db := ((orders (i + 1)).mem_sort).mp (slice_sublist.subset hd)
    have hsame : d = g := List.inj_on_of_nodup_map hgroups.nodup hdmem hg
      (hproduct.trans (Option.some.inj hof))
    rw [← hsame] at hmissed
    exact hmissed (i + 1) i.succ_pos hd
  · intro hvalues q orders c hc
    obtain ⟨g, hg, hof⟩ := List.mem_map.mp ((hgroups.keys c.productId).mpr ⟨c, hc, rfl⟩)
    obtain ⟨page, hpage, hmem⟩ := OrderBy.exists_page q.limit_pos hvalues
      (fun page => orders (page - 1)) hg
    obtain ⟨i, rfl⟩ : ∃ i, page = i + 1 := ⟨page - 1, by omega⟩
    exact ⟨i, productRow db g, List.mem_map.mpr ⟨g, hmem, rfl⟩, hof⟩

end products

/-- The pages of the products show what is financed by the contracts of each, and every product,
whatever the order of each page, exactly when no two are financed alike. -/
theorem products_ranked (db : Database)
    (hproducts : ∀ c ∈ db.financingContracts.rows, (db.products.find? c.productId).isSome = true) :
    ProductsRanked db := by
  refine ⟨grouped_totalFinanced db, grouped_contractsCount db, fun q orders n => ?_,
    fun q order row hrow => ?_, fun q order => ?_, fun orders now => ?_, productsListed_iff⟩
  · have hpages := OrderBy.map_pages orders q.limit n (productGroups db)
    rw [gmvRanking, ← hpages, OrderBy.pages, List.map_flatMap, List.map_flatMap]
    refine congrArg (fun f => (List.range n).flatMap f) (funext fun i => ?_)
    rw [getProductRevenueLeaderboard, List.map_map, List.map_map]
    rfl
  · obtain ⟨g, hg, rfl⟩ := List.mem_map.mp hrow
    exact ⟨g, order.mem_sort.mp (slice_sublist.subset hg), rfl⟩
  · rw [gmvRanking, OrderBy.ranking, List.length_insertionSort, List.length_map]
    exact countP_isFinanced hproducts
  · have hvalues := orders.products.map_sort (productGroups db)
    rw [gmvRanking, ← hvalues, ← List.map_take, List.map_map, getPlatformOverview, List.map_map]
    rfl

/-- Three contracts of two products, and one that is not financed any more -/
def soldProducts : Database where
  products := ⟨[{ productId := "kettle" }, { productId := "stove" }, { productId := "lamp" }],
    by decide⟩
  financingContracts :=
    ⟨[{ contractId := "c₁", userId := none, productId := "kettle", totalFinanced := 40 },
      { contractId := "c₂", userId := none, productId := "stove", totalFinanced := 90 },
      { contractId := "c₃", userId := none, productId := "kettle", totalFinanced := 60,
        status := .completed },
      { contractId := "c₄", userId := none, productId := "lamp", totalFinanced := 500,
        status := .defaulted }], by decide⟩

theorem products_ranked_two_products :
    ProductsRanked soldProducts ∧ gmvRanking soldProducts = [100, 90] :=
  ⟨products_ranked soldProducts (by decide +kernel), by decide +kernel⟩

end InstalFlow
