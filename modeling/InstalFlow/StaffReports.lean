import InstalFlow.InstallmentQueries
import InstalFlow.MarketerRequests
import InstalFlow.Numbers.Binary64
import InstalFlow.PayoutQueries
import InstalFlow.Relational.Grouping
import InstalFlow.Relational.Growth
import InstalFlow.Relational.OrderBy

/-!
# Admins and marketers in reports

The owner of a company opens an admin with the figures of all the admin's marketers; owner and
admins list marketers, open one with its own figures, and ask for a decision about one. These are
separate queries, and the first does not look at the company of a marketer.
-/

namespace InstalFlow
open Relational Transition

def SortOrder.ofTimes : SortOrder → DateTime → DateTime → Prop
  | .asc => (· ≤ ·)
  | .desc => (· ≥ ·)

/-- `Number(req.query.page) || 1` and `Number(req.query.limit) || 10`, of the numbers that a
database takes -/
structure StaffQuery where
  page : ℕ := 1
  limit : ℕ := 10
  page_pos : 0 < page := by decide
  limit_pos : 0 < limit := by decide

namespace StaffQuery

def atPage (q : StaffQuery) {page : ℕ} (hpage : 0 < page) : StaffQuery :=
  { q with page, page_pos := hpage }

end StaffQuery

/-- Where the rows of a page come from; `times` has when each account was made. -/
abbrev AccountOrder (times : String → DateTime) (sortOrder : SortOrder) :=
  OrderBy (fun u : User => times u.userId) sortOrder.ofTimes

/-- The orders of what is shown of a marketer -/
structure MarketerOrders (times : String → DateTime) where
  accounts : OrderBy MarketerBankAccount.createdAt (· ≥ ·)
  customers : AccountOrder times .desc
  payouts : OrderBy CommissionPayoutRequest.requestedAt (· ≥ ·)

structure StaffPagination where
  total : ℕ
  totalPages : ℕ
  currentPage : ℕ
  limit : ℕ
  hasNextPage : Bool
  hasPreviousPage : Bool

structure AdminItem extends UserSummary where
  role : Role
  active : Bool
  createdAt : DateTime
  marketerCount : ℕ
  requestedApprovals : ℕ

structure AdminPage where
  admins : List AdminItem
  pagination : StaffPagination

structure MarketerItem extends UserSummary where
  role : Role
  active : Bool
  referralCode : Option String
  createdAt : DateTime
  referredUsers : ℕ

structure MarketerPage where
  marketers : List MarketerItem
  pagination : StaffPagination

structure AdminStats where
  marketerCount : ℕ
  customerCount : ℕ
  financingContractGenerated : ℚ
  financingContractCount : ℕ
  totalCommissionGenerated : ℚ
  totalCommissionRecords : ℕ

structure AdminDetails extends UserSummary where
  active : Bool
  createdAt : DateTime
  createdUsers : List MarketerItem
  stats : AdminStats

structure MarketerStats where
  referredCustomers : ℕ
  approvedKycApplications : ℕ
  financingContracts : ℕ
  totalFinancedVolume : ℚ
  totalCommissionGenerated : ℚ
  totalCommissionRecords : ℕ
  totalPayoutRequested : ℚ
  totalPayoutRequests : ℕ

structure CreatorItem extends UserSummary where
  role : Role

structure AccountItem where
  accountId : String
  bankName : String
  accountName : String
  accountNumber : String
  isPrimary : Bool
  isVerified : Bool

structure RecentCustomer extends UserSummary where
  createdAt : DateTime

structure RecentPayout where
  payoutId : String
  amount : ℚ
  status : CommissionPayoutStatus
  requestedAt : DateTime

structure MarketerDetails extends MarketerItem where
  creator : Option CreatorItem
  marketerBankAccounts : List AccountItem
  stats : MarketerStats
  recentCustomers : List RecentCustomer
  recentPayoutRequests : List RecentPayout

namespace UserManagementService

def paginationOf (q : StaffQuery) (total : ℕ) : StaffPagination :=
  let totalPages := (total + q.limit - 1) / q.limit
  { total
    totalPages
    currentPage := q.page
    limit := q.limit
    hasNextPage := q.page < totalPages
    hasPreviousPage := q.page > 1 }

/-- `role: MARKETER, deletedAt: null` -/
def isMarketer (u : User) : Bool := u.role = .marketer ∧ u.deletedAt = none

/-- The marketers an account has created -/
def createdMarketers (creatorId : String) (db : Database) : List User :=
  db.users.rows.filter fun u => u.createdById = some creatorId ∧ isMarketer u

def adminItem (times : String → DateTime) (db : Database) (admin : User) : AdminItem where
  toUserSummary := admin.summary
  role := admin.role
  active := admin.active
  createdAt := times admin.userId
  marketerCount := (createdMarketers admin.userId db).length
  requestedApprovals := db.approvalRequests.rows.countP fun r => r.requestedById = admin.userId

def getAssociatedAdmins (companyId : String) (q : StaffQuery) {times : String → DateTime}
    {sortOrder : SortOrder} (order : AccountOrder times sortOrder) (db : Database) : AdminPage :=
  let admins := db.users.rows.filter fun u =>
    u.companyId = some companyId ∧ u.role = .admin ∧ u.deletedAt = none
  { admins := (slice q.page q.limit (order.sort admins)).map (adminItem times db)
    pagination := paginationOf q admins.length }

/-- `user: { referredByMarketerId }`, of the marketers that are meant -/
def boughtThrough (p : String → Bool) (db : Database) (c : FinancingContract) : Bool :=
  ((c.userId.bind db.users.find?).bind User.referredByMarketerId).any p

def customersOf (p : String → Bool) (db : Database) : ℕ :=
  db.users.rows.countP fun u => u.referredByMarketerId.any p

def contractsOf (p : String → Bool) (db : Database) : ℕ :=
  db.financingContracts.rows.countP (boughtThrough p db)

def financedBy (p : String → Bool) (db : Database) : ℚ :=
  db.financingContracts.sumWhere (boughtThrough p db) FinancingContract.totalFinanced

def commissionRecords (p : String → Bool) (db : Database) : ℕ :=
  db.commissions.rows.countP fun c => p c.userId

def commissionOf (p : String → Bool) (db : Database) : ℚ :=
  db.commissions.sumWhere (fun c => p c.userId) Commission.amount

def marketerItem (times : String → DateTime) (db : Database) (marketer : User) : MarketerItem where
  toUserSummary := marketer.summary
  role := marketer.role
  active := marketer.active
  referralCode := marketer.referralCode
  createdAt := times marketer.userId
  referredUsers := customersOf (fun id => id = marketer.userId) db

/-- Its figures are of all marketers the admin has created, of whatever company they are. -/
def getAdminDetails (times : String → DateTime) (companyId adminId : String) (db : Database) :
    Except AppError AdminDetails :=
  match db.users.rows.find? fun u => u.userId = adminId ∧ u.companyId = some companyId ∧
      u.role = .admin ∧ u.deletedAt = none with
  | none => .error (.notFound "Admin not found")
  | some admin =>
    let marketers := createdMarketers admin.userId db
    let marketerIds (id : String) : Bool := id ∈ marketers.map User.userId
    .ok {
      toUserSummary := admin.summary
      active := admin.active
      createdAt := times admin.userId
      createdUsers := marketers.map (marketerItem times db)
      stats := {
        marketerCount := marketers.length
        customerCount := customersOf marketerIds db
        financingContractGenerated := Binary64.nearest (financedBy marketerIds db)
        financingContractCount := contractsOf marketerIds db
        totalCommissionGenerated := Binary64.nearest (commissionOf marketerIds db)
        totalCommissionRecords := commissionRecords marketerIds db } }

/-- Whom the lists are for -/
def findStaff (companyId adminId : String) (db : Database) : Option User :=
  db.users.rows.find? fun u => u.userId = adminId ∧ u.companyId = some companyId ∧
    (u.role = .admin ∨ u.role = .company) ∧ u.deletedAt = none

def inScope (companyId : String) (admin : User) (u : User) : Bool :=
  u.companyId = some companyId ∧ isMarketer u ∧
    (admin.role = .admin → u.createdById = some admin.userId)

def getAdminMarketers (adminId companyId : String) (q : StaffQuery) {times : String → DateTime}
    {sortOrder : SortOrder} (order : AccountOrder times sortOrder) (db : Database) :
    Except AppError MarketerPage :=
  match findStaff companyId adminId db with
  | none => .error (.forbidden "You are not allowed to access these marketers.")
  | some admin =>
    let marketers := db.users.rows.filter (inScope companyId admin)
    .ok {
      marketers := (slice q.page q.limit (order.sort marketers)).map (marketerItem times db)
      pagination := paginationOf q marketers.length }

def marketerStats (marketerId : String) (db : Database) : MarketerStats :=
  let isThis (id : String) : Bool := id = marketerId
  { referredCustomers := customersOf isThis db
    approvedKycApplications := db.kycApplications.rows.countP fun a => a.status = .approved ∧
      ((a.userId.bind db.users.find?).bind User.referredByMarketerId).any isThis
    financingContracts := contractsOf isThis db
    totalFinancedVolume := Binary64.nearest (financedBy isThis db)
    totalCommissionGenerated := Binary64.nearest (commissionOf isThis db)
    totalCommissionRecords := commissionRecords isThis db
    totalPayoutRequested := Binary64.nearest (db.commissionPayoutRequests.sumWhere
      (fun p => p.userId = marketerId) CommissionPayoutRequest.amount)
    totalPayoutRequests := db.commissionPayoutRequests.rows.countP fun p =>
      p.userId = marketerId }

def accountItem (a : MarketerBankAccount) : AccountItem where
  accountId := a.accountId
  bankName := a.bankName
  accountName := a.accountName
  accountNumber := a.accountNumber
  isPrimary := a.isPrimary
  isVerified := a.isVerified

def recentPayout (p : CommissionPayoutRequest) : RecentPayout where
  payoutId := p.payoutId
  amount := p.amount
  status := p.status
  requestedAt := p.requestedAt

def getMarketerDetails (companyId adminId marketerId : String) {times : String → DateTime}
    (orders : MarketerOrders times) (db : Database) : Except AppError MarketerDetails :=
  match findStaff companyId adminId db with
  | none => .error (.forbidden "You are not allowed to access this marketer.")
  | some admin =>
    match db.users.rows.find? fun u => u.userId = marketerId ∧ inScope companyId admin u with
    | none => .error (.notFound "Marketer not found")
    | some marketer =>
      .ok {
        toMarketerItem := marketerItem times db marketer
        creator := (db.creator marketer).map fun c => ⟨c.summary, c.role⟩
        marketerBankAccounts := (orders.accounts.sort (db.marketerBankAccounts.rows.filter fun a =>
          a.userId = marketer.userId)).map accountItem
        stats := marketerStats marketerId db
        recentCustomers := ((orders.customers.sort (db.users.rows.filter fun u =>
          u.referredByMarketerId = some marketerId)).take 5).map
            fun u => ⟨u.summary, times u.userId⟩
        recentPayoutRequests := ((orders.payouts.sort (db.commissionPayoutRequests.rows.filter
          fun p => p.userId = marketerId)).take 5).map recentPayout }

end UserManagementService

open UserManagementService

/-- The marketer is on a page of those that are listed for the account. -/
def ListsMarketer (q : StaffQuery) {times : String → DateTime} {sortOrder : SortOrder}
    (order : AccountOrder times sortOrder) (companyId adminId marketerId : String)
    (db : Database) : Prop :=
  ∃ page, ∃ hpage : 0 < page, ∃ result,
    getAdminMarketers adminId companyId (q.atPage hpage) order db = .ok result ∧
      ∃ item ∈ result.marketers, item.userId = marketerId

def OpensMarketer {times : String → DateTime} (orders : MarketerOrders times)
    (companyId adminId marketerId : String) (db : Database) : Prop :=
  ∃ details, getMarketerDetails companyId adminId marketerId orders db = .ok details ∧
    details.userId = marketerId ∧ details.stats = marketerStats marketerId db

def MayAskAbout (companyId marketerId : String) (db : Database) : Prop :=
  ∃ marketer, ensureAdminCanManageMarketer companyId marketerId db = .ok marketer

/-- The figures are the sums of those of the marketers, amounts before they are rounded. -/
structure AdminStats.Totals (stats : AdminStats) (marketers : List String) (db : Database) :
    Prop where
  marketerCount : stats.marketerCount = marketers.length
  customerCount : stats.customerCount =
    (marketers.map fun m => (marketerStats m db).referredCustomers).sum
  contracts : stats.financingContractCount =
    (marketers.map fun m => (marketerStats m db).financingContracts).sum
  records : stats.totalCommissionRecords =
    (marketers.map fun m => (marketerStats m db).totalCommissionRecords).sum
  financed : stats.financingContractGenerated =
    Binary64.nearest (marketers.map fun m => financedBy (fun id => id = m) db).sum
  commission : stats.totalCommissionGenerated =
    Binary64.nearest (marketers.map fun m => commissionOf (fun id => id = m) db).sum

/-- A marketer is listed where it can be opened; the page of an admin has exactly the marketers
that the admin can open, and their totals; a request can be made about those that the owner can
open and has not created, which are all that an admin can open, and those of the other admins. -/
structure StaffReportsAgree {times : String → DateTime} (orders : MarketerOrders times)
    (db : Database) : Prop where
  listed : ∀ (q : StaffQuery) {sortOrder : SortOrder} (order : AccountOrder times sortOrder)
    (companyId adminId marketerId : String),
    ListsMarketer q order companyId adminId marketerId db ↔
      OpensMarketer orders companyId adminId marketerId db
  admins : ∀ companyId, ∀ admin ∈ db.users.rows, admin.role = .admin →
    admin.companyId = some companyId → admin.deletedAt = none →
      ∃ details, getAdminDetails times companyId admin.userId db = .ok details ∧
        (∀ m, m ∈ details.createdUsers.map (fun item => item.userId) ↔
          OpensMarketer orders companyId admin.userId m db) ∧
        details.stats.Totals (details.createdUsers.map fun item => item.userId) db
  asked : ∀ companyId marketerId, ∀ owner ∈ db.users.rows, owner.role = .company →
    owner.companyId = some companyId → owner.deletedAt = none →
      (MayAskAbout companyId marketerId db ↔
        OpensMarketer orders companyId owner.userId marketerId db ∧
          ∀ u, db.users.find? marketerId = some u → ¬ db.CreatedByOwner u)
  askedByAdmins : ∀ companyId marketerId, ∀ admin ∈ db.users.rows, admin.role = .admin →
    OpensMarketer orders companyId admin.userId marketerId db → MayAskAbout companyId marketerId db

/-- What is fixed of an account -/
def User.standing (u : User) : Role × Option String × Option String :=
  (u.role, u.companyId, u.createdById)

/-- A marketer is of the company of the account that has created it. -/
def LinkedTo (db : Database) (s : Role × Option String × Option String) : Prop :=
  s.1 = .marketer → ∀ creatorId ∈ s.2.2, ∃ c, db.users.find? creatorId = some c ∧
    c.companyId = s.2.1

def Database.StaffLinked (db : Database) : Prop :=
  ∀ k, ∀ s ∈ db.users.view User.standing k, LinkedTo db s

/-- The token of who creates a marketer names the company of the account. -/
def StaffStep.Authenticated (db : Database) : StaffStep → Prop
  | createMarketer companyId creatorId _ _ =>
      ∃ c, db.users.find? creatorId = some c ∧ c.companyId = companyId
  | _ => True


section reports
variable {db : Database} {times : String → DateTime} {orders : MarketerOrders times}
  {companyId adminId marketerId : String} {admin u : User}

theorem findStaff_eq_some_iff : findStaff companyId adminId db = some admin ↔
    db.users.find? adminId = some admin ∧ admin.companyId = some companyId ∧
      (admin.role = .admin ∨ admin.role = .company) ∧ admin.deletedAt = none := by
  rw [findStaff, Table.find?_rows_eq_some_iff fun r hr => (of_decide_eq_true hr).1]
  refine and_congr_right fun hfind => ?_
  rw [decide_eq_true_eq, and_iff_right (Table.find?_key hfind)]

theorem opensMarketer_iff : OpensMarketer orders companyId adminId marketerId db ↔
    ∃ admin, findStaff companyId adminId db = some admin ∧
      ∃ u, db.users.find? marketerId = some u ∧ inScope companyId admin u = true := by
  have hfind (admin u : User) : (db.users.rows.find? fun u =>
      u.userId = marketerId ∧ inScope companyId admin u) = some u ↔
        db.users.find? marketerId = some u ∧ inScope companyId admin u = true := by
    rw [Table.find?_rows_eq_some_iff fun r hr => (of_decide_eq_true hr).1]
    refine and_congr_right fun hu => ?_
    rw [decide_eq_true_eq, and_iff_right (Table.find?_key hu)]
  rw [OpensMarketer, getMarketerDetails]
  cases hstaff : findStaff companyId adminId db with
  | none => simp
  | some admin =>
    simp only [Option.some.injEq, exists_eq_left']
    constructor
    · rintro ⟨details, hdetails, -⟩
      split at hdetails
      · cases hdetails
      · rename_i u hu
        exact ⟨u, (hfind admin u).mp hu⟩
    · rintro ⟨u, hu⟩
      have hid : u.userId = marketerId := Table.find?_key hu.1
      rw [(hfind admin u).mpr hu]
      exact ⟨_, rfl, hid, rfl⟩

theorem listsMarketer_iff (q : StaffQuery) {sortOrder : SortOrder}
    (order : AccountOrder times sortOrder) :
    ListsMarketer q order companyId adminId marketerId db ↔
      ∃ admin, findStaff companyId adminId db = some admin ∧
        ∃ u, db.users.find? marketerId = some u ∧ inScope companyId admin u = true := by
  have hmem (admin : User) : (∃ page > 0, ∃ u ∈ slice page q.limit (order.sort
      (db.users.rows.filter (inScope companyId admin))), u.userId = marketerId) ↔
        ∃ u, db.users.find? marketerId = some u ∧ inScope companyId admin u = true := by
    constructor
    · rintro ⟨page, -, u, hu, rfl⟩
      obtain ⟨hrow, hscope⟩ := List.mem_filter.mp (order.mem_sort.mp (slice_sublist.subset hu))
      exact ⟨u, Table.find?_of_mem hrow, hscope⟩
    · rintro ⟨u, hu, hscope⟩
      have hrow := order.mem_sort.mpr (List.mem_filter.mpr ⟨Table.mem_of_find? hu, hscope⟩)
      obtain ⟨page, hpage, hslice⟩ := (mem_iff_exists_slice q.limit_pos).mp hrow
      exact ⟨page, hpage, u, hslice, Table.find?_key hu⟩
  simp only [ListsMarketer, getAdminMarketers]
  cases hstaff : findStaff companyId adminId db with
  | none => simp
  | some admin =>
    simp only [Option.some.injEq, exists_eq_left', ← hmem]
    constructor
    · rintro ⟨page, hpage, result, hresult, item, hitem, rfl⟩
      cases hresult
      obtain ⟨u, hu, rfl⟩ := List.mem_map.mp hitem
      exact ⟨page, hpage, u, hu, rfl⟩
    · rintro ⟨page, hpage, u, hu, rfl⟩
      exact ⟨page, hpage, _, rfl, marketerItem times db u, List.mem_map.mpr ⟨u, hu, rfl⟩, rfl⟩

theorem mayAskAbout_iff : MayAskAbout companyId marketerId db ↔
    ∃ u, db.users.find? marketerId = some u ∧ u.companyId = some companyId ∧
      isMarketer u = true ∧ ¬ db.CreatedByOwner u := by
  have hfind (u : User) : (db.users.rows.find? fun u => u.userId = marketerId ∧
      u.companyId = some companyId ∧ u.role = .marketer ∧ u.deletedAt = none) = some u ↔
        db.users.find? marketerId = some u ∧ u.companyId = some companyId ∧
          isMarketer u = true := by
    rw [Table.find?_rows_eq_some_iff fun r hr => (of_decide_eq_true hr).1]
    refine and_congr_right fun hu => ?_
    rw [decide_eq_true_eq, and_iff_right (Table.find?_key hu), isMarketer, decide_eq_true_eq]
  have howner (u : User) :
      ((db.creator u).any fun c => c.role = .company) = true ↔ db.CreatedByOwner u := by
    simp [Database.CreatedByOwner, Option.any_eq_true]
  rw [MayAskAbout]
  constructor
  · rintro ⟨u, hok⟩
    rw [ensureAdminCanManageMarketer] at hok
    split at hok
    · cases hok
    · rename_i v hv
      split at hok
      · cases hok
      · rename_i hnot
        obtain ⟨hv, hcompany, hmarketer⟩ := (hfind v).mp hv
        exact ⟨v, hv, hcompany, hmarketer, fun h => hnot ((howner v).mpr h)⟩
  · rintro ⟨u, hu, hcompany, hmarketer, hnot⟩
    rw [ensureAdminCanManageMarketer, (hfind u).mpr ⟨hu, hcompany, hmarketer⟩]
    exact ⟨u, if_neg fun h => hnot ((howner u).mp h)⟩

theorem inScope_iff : inScope companyId admin u = true ↔ u.companyId = some companyId ∧
    isMarketer u = true ∧ (admin.role = .admin → u.createdById = some admin.userId) := by
  rw [inScope, decide_eq_true_eq]

theorem nodup_createdMarketers (creatorId : String) (db : Database) :
    ((createdMarketers creatorId db).map User.userId).Nodup :=
  db.users.unique.sublist (List.filter_sublist.map _)

theorem totals_of_nodup {marketers : List String} (h : marketers.Nodup) {stats : AdminStats}
    (hcount : stats.marketerCount = marketers.length)
    (hcustomers : stats.customerCount = customersOf (fun id => id ∈ marketers) db)
    (hcontracts : stats.financingContractCount = contractsOf (fun id => id ∈ marketers) db)
    (hrecords : stats.totalCommissionRecords = commissionRecords (fun id => id ∈ marketers) db)
    (hfinanced : stats.financingContractGenerated =
      Binary64.nearest (financedBy (fun id => id ∈ marketers) db))
    (hcommission : stats.totalCommissionGenerated =
      Binary64.nearest (commissionOf (fun id => id ∈ marketers) db)) :
    stats.Totals marketers db where
  marketerCount := hcount
  customerCount := hcustomers.trans (countP_of_some_keys h User.referredByMarketerId _).symm
  contracts := hcontracts.trans (countP_of_some_keys h (fun c : FinancingContract =>
    (c.userId.bind db.users.find?).bind User.referredByMarketerId) _).symm
  records := hrecords.trans (countP_of_some_keys h (fun c : Commission => some c.userId) _).symm
  financed := hfinanced.trans (congrArg Binary64.nearest (sum_of_some_keys h
    (fun c : FinancingContract => (c.userId.bind db.users.find?).bind User.referredByMarketerId)
    FinancingContract.totalFinanced _).symm)
  commission := hcommission.trans (congrArg Binary64.nearest (sum_of_some_keys h
    (fun c : Commission => some c.userId) Commission.amount _).symm)

/-- The marketers of an admin are of the admin's company. -/
theorem companyId_of_created (hdb : db.StaffLinked) (hadmin : admin ∈ db.users.rows)
    (hu : u ∈ db.users.rows) (hrole : u.role = .marketer)
    (hcreator : u.createdById = some admin.userId) : u.companyId = admin.companyId := by
  have hview : db.users.view User.standing u.userId = some u.standing :=
    Table.mem_view.mpr ⟨u, hu, rfl, rfl⟩
  obtain ⟨c, hc, hcompany⟩ := hdb u.userId u.standing hview hrole admin.userId hcreator
  rw [Table.find?_of_mem hadmin] at hc
  cases hc
  exact hcompany.symm

theorem mem_createdMarketers_iff (hdb : db.StaffLinked) (hadmin : admin ∈ db.users.rows)
    (hrole : admin.role = .admin) (hcompany : admin.companyId = some companyId)
    (hdeleted : admin.deletedAt = none) :
    marketerId ∈ (createdMarketers admin.userId db).map User.userId ↔
      OpensMarketer orders companyId admin.userId marketerId db := by
  have hstaff : findStaff companyId admin.userId db = some admin :=
    findStaff_eq_some_iff.mpr ⟨Table.find?_of_mem hadmin, hcompany, .inl hrole, hdeleted⟩
  rw [opensMarketer_iff, hstaff]
  simp only [Option.some.injEq, exists_eq_left', inScope_iff, hrole, true_implies]
  rw [List.mem_map]
  constructor
  · rintro ⟨u, hu, rfl⟩
    obtain ⟨hrow, hcreated⟩ := List.mem_filter.mp hu
    obtain ⟨hcreator, hmarketer⟩ := of_decide_eq_true hcreated
    have hsame := companyId_of_created hdb hadmin hrow (of_decide_eq_true hmarketer).1 hcreator
    exact ⟨u, Table.find?_of_mem hrow, hsame.trans hcompany, hmarketer, hcreator⟩
  · rintro ⟨u, hu, -, hmarketer, hcreator⟩
    exact ⟨u, List.mem_filter.mpr ⟨Table.mem_of_find? hu, decide_eq_true ⟨hcreator, hmarketer⟩⟩,
      Table.find?_key hu⟩

theorem staffReportsAgree (hdb : db.StaffLinked) : StaffReportsAgree orders db where
  listed q _ order companyId adminId marketerId :=
    (listsMarketer_iff q order).trans opensMarketer_iff.symm
  admins companyId admin hadmin hrole hcompany hdeleted := by
    have hfind : (db.users.rows.find? fun u => u.userId = admin.userId ∧
        u.companyId = some companyId ∧ u.role = .admin ∧ u.deletedAt = none) = some admin := by
      rw [Table.find?_rows_eq_some_iff fun r hr => (of_decide_eq_true hr).1]
      exact ⟨Table.find?_of_mem hadmin, decide_eq_true ⟨rfl, hcompany, hrole, hdeleted⟩⟩
    have hids : (createdMarketers admin.userId db).map User.userId =
        ((createdMarketers admin.userId db).map (marketerItem times db)).map
          fun item => item.userId := by
      rw [List.map_map]
      rfl
    rw [getAdminDetails, hfind]
    refine ⟨_, rfl, fun m => ?_, ?_⟩
    · rw [← hids]
      exact mem_createdMarketers_iff hdb hadmin hrole hcompany hdeleted
    · rw [← hids]
      exact totals_of_nodup (nodup_createdMarketers admin.userId db) (List.length_map _).symm rfl
        rfl rfl rfl rfl
  asked companyId marketerId owner howner hrole hcompany hdeleted := by
    have hstaff : findStaff companyId owner.userId db = some owner :=
      findStaff_eq_some_iff.mpr ⟨Table.find?_of_mem howner, hcompany, .inr hrole, hdeleted⟩
    have hnot : owner.role ≠ .admin := by simp [hrole]
    rw [mayAskAbout_iff, opensMarketer_iff, hstaff]
    simp only [Option.some.injEq, exists_eq_left', inScope_iff, hnot, false_implies, and_true]
    constructor
    · rintro ⟨u, hu, hcompany, hmarketer, hcreated⟩
      refine ⟨⟨u, hu, hcompany, hmarketer⟩, fun v hv => ?_⟩
      rw [hu] at hv
      cases hv
      exact hcreated
    · rintro ⟨⟨u, hu, hcompany, hmarketer⟩, hcreated⟩
      exact ⟨u, hu, hcompany, hmarketer, hcreated u hu⟩
  askedByAdmins companyId marketerId admin hadmin hrole hopens := by
    obtain ⟨a, ha, u, hu, hscope⟩ := opensMarketer_iff.mp hopens
    obtain ⟨hfind, -⟩ := findStaff_eq_some_iff.mp ha
    rw [Table.find?_of_mem hadmin] at hfind
    cases hfind
    obtain ⟨hcompany, hmarketer, hcreator⟩ := inScope_iff.mp hscope
    refine mayAskAbout_iff.mpr ⟨u, hu, hcompany, hmarketer, ?_⟩
    rintro ⟨c, hc, howner⟩
    rw [Database.creator, hcreator hrole, Option.bind_some, Table.find?_of_mem hadmin] at hc
    cases hc
    rw [hrole] at howner
    cases howner

end reports

section steps
variable {db : Database} {u : User} {k : String}

/-- What grows by accounts of marketers that are linked -/
def KeepsStaff (db db' : Database) : Prop :=
  Grows (LinkedTo db) (db.users.view User.standing) (db'.users.view User.standing)

theorem keepsStaff_updateUser {f : User → User} (hf : ∀ u, (f u).userId = u.userId)
    (hstanding : ∀ u, (f u).standing = u.standing) : KeepsStaff db (updateUser db k f hf) :=
  .of_eq (Table.view_update db.users k hf hstanding)

theorem keepsStaff_setActive (active : Bool) : KeepsStaff db (setActive k active db) := by
  have hupdate : KeepsStaff db
      (updateUser db k (User.withActive active) (User.withActive_userId active)) :=
    keepsStaff_updateUser _ fun _ => rfl
  rw [setActive]
  split
  · exact hupdate
  · exact hupdate

theorem keepsStaff_softDelete (now : DateTime) : KeepsStaff db (softDelete k now db) :=
  keepsStaff_updateUser (User.softDeleted_userId now) fun _ => rfl

theorem keepsStaff_decideApproval (request : ApprovalRequest) (target : User)
    (data : HandleApproval) (now : DateTime) :
    KeepsStaff db (decideApproval request target data now db).2 := by
  rw [decideApproval]
  split
  · exact .of_eq rfl
  · rw [approveRequest]
    split
    · exact .of_eq (Table.view_update db.users target.userId (User.withActive_userId _)
        fun _ => rfl)
    · exact .of_eq (Table.view_update db.users target.userId (User.softDeleted_userId now)
        fun _ => rfl)

theorem keepsStaff_insertUser {row : User} {db' : Database} (h : insertUser row db = .ok db')
    (hlinked : LinkedTo db row.standing) : KeepsStaff db db' := by
  obtain ⟨users, hcreate, rfl⟩ := insertUser_eq_ok h
  exact Table.grows_create hcreate hlinked

theorem keepsStaff_requestAction {action : ApprovalAction}
    {alreadyPending companyId marketerId adminId requestId : String} {db' : Database}
    (h : requestAction action alreadyPending companyId marketerId adminId requestId db = .ok db') :
    KeepsStaff db db' := by
  obtain ⟨-, -, requests, -, rfl⟩ := requestAction_eq_ok h
  exact .of_eq rfl

theorem StaffStep.keepsStaff {e : StaffStep} (he : e.Authenticated db) :
    KeepsStaff db (e.apply db) := by
  refine e.apply_rule (P := KeepsStaff db) (.of_eq rfl) (fun row db' hrow h => ?_)
    keepsStaff_requestAction (fun data now _ => keepsStaff_decideApproval _ _ data now)
    (fun id active => keepsStaff_setActive active) fun id now => keepsStaff_softDelete now
  refine keepsStaff_insertUser h fun hmarketer id hid => ?_
  rcases hrow with hadmin | ⟨-, creatorId, data, m, hcreator, rfl⟩
  · cases hadmin.symm.trans hmarketer
  · cases hcreator.symm.trans hid
    exact he

/-- Accounts stay what they are, so a marketer stays linked. -/
theorem KeepsStaff.staffLinked {db' : Database} (h : KeepsStaff db db') (hdb : db.StaffLinked) :
    db'.StaffLinked := by
  have hkept (s : Role × Option String × Option String) (hs : LinkedTo db s) : LinkedTo db' s := by
    intro hrole creatorId hcreator
    obtain ⟨c, hc, hcompany⟩ := hs hrole creatorId hcreator
    have hview : db.users.view User.standing creatorId = some c.standing :=
      congrArg (Option.map User.standing) hc
    obtain ⟨c', hc', hsame⟩ := Option.map_eq_some_iff.mp (h.kept hview)
    have hstanding : c'.companyId = c.companyId := congrArg (fun s => s.2.1) hsame
    exact ⟨c', hc', hstanding.trans hcompany⟩
  exact h.forall_mem (fun k s hs => hkept s (hdb k s hs)) hkept

end steps

/-- In every run of requests with tokens that name the company of their account, what is said of
the admins and marketers agrees. -/
theorem staff_reports_agree {db : Database} (hdb : db.StaffLinked) {steps : List StaffStep}
    (hsteps : Along StaffStep.apply (fun db e => e.Authenticated db) db steps)
    {times : String → DateTime} (orders : MarketerOrders times) :
    StaffReportsAgree orders (run StaffStep.apply db steps) := by
  have hlinked : Throughout StaffStep.apply Database.StaffLinked db steps :=
    hsteps.throughout (fun _ _ h he => (StaffStep.keepsStaff he).staffLinked h) hdb
  exact staffReportsAgree hlinked.last

/-- A company with its owner and two admins -/
def staffedCompany : Database where
  users := ⟨[{ userId := "owner", role := .company, companyId := some "shop" },
    { userId := "ann", role := .admin, companyId := some "shop" },
    { userId := "bob", role := .admin, companyId := some "shop" }], by decide⟩

/-- The owner and an admin create a marketer each. -/
def newMarketers : List StaffStep :=
  [.createMarketer (some "shop") "owner" ⟨"Olga", "olga@mail"⟩ { userId := "olga" },
    .createMarketer (some "shop") "ann" ⟨"Mark", "mark@mail"⟩ { userId := "mark" }]

theorem staffLinked_staffedCompany : staffedCompany.StaffLinked := by
  have hnone : ∀ u ∈ staffedCompany.users.rows, u.role ≠ .marketer := by decide
  intro k s hs hrole
  obtain ⟨u, hu, -, rfl⟩ := Table.mem_view.mp hs
  exact absurd hrole (hnone u hu)

theorem authenticated_newMarketers :
    Along StaffStep.apply (fun db e => e.Authenticated db) staffedCompany newMarketers :=
  ⟨⟨_, rfl, rfl⟩, ⟨_, rfl, rfl⟩, trivial⟩

def newestFirst : MarketerOrders fun _ => 0 where
  accounts := .descending _
  customers := .descending _
  payouts := .descending _

/-- An admin may ask about the marketer of the other one, and not about the owner's. -/
theorem staff_reports_agree_two_marketers :
    StaffReportsAgree newestFirst (run StaffStep.apply staffedCompany newMarketers) ∧
    (getMarketerDetails "shop" "bob" "mark" newestFirst
      (run StaffStep.apply staffedCompany newMarketers)).isOk = false ∧
    (ensureAdminCanManageMarketer "shop" "mark"
      (run StaffStep.apply staffedCompany newMarketers)).isOk = true ∧
    (ensureAdminCanManageMarketer "shop" "olga"
      (run StaffStep.apply staffedCompany newMarketers)).isOk = false :=
  ⟨staff_reports_agree staffLinked_staffedCompany authenticated_newMarketers newestFirst,
    by decide +kernel, by decide +kernel, by decide +kernel⟩

end InstalFlow
