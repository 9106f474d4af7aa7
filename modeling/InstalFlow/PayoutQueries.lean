import InstalFlow.CommissionService

/-!
# The queries of payouts

The list of payouts and the details of one, for marketers, companies and admins. The rows
a payout is joined with are read with it.
-/

namespace InstalFlow
open Relational

/-- The last four digits of an account number, the others masked. -/
def maskAccountNumber (accountNumber : String) : String :=
  let digits := accountNumber.toList.filter Char.isDigit
  let masked := digits.length - 4
  String.ofList (List.replicate masked '*' ++ digits.drop masked)

/-- What of a user is shown. -/
structure UserSummary where
  userId : String
  name : Option String
  email : String
deriving DecidableEq

def User.summary (u : User) : UserSummary := ⟨u.userId, u.name, u.email⟩

/-- A bank account as it is shown, with its number masked. -/
structure MaskedAccount where
  bankName : String
  accountName : String
  accountNumber : String
deriving DecidableEq

def MarketerBankAccount.masked (b : MarketerBankAccount) : MaskedAccount :=
  ⟨b.bankName, b.accountName, maskAccountNumber b.accountNumber⟩

/-- A payout with the rows it refers to. -/
structure PayoutRecord where
  payout : CommissionPayoutRequest
  user : Option User
  company : Option Company
  adminApprovedBy : Option User
  companyApprovedBy : Option User
  transferInitiatedBy : Option User
  marketerBankAccount : Option MarketerBankAccount
  commissionAllocations : List JoinedAllocation

def Database.payoutRecord (db : Database) (p : CommissionPayoutRequest) : PayoutRecord where
  payout := p
  user := db.users.find? p.userId
  company := db.companies.find? p.companyId
  adminApprovedBy := p.adminApprovedById.bind db.users.find?
  companyApprovedBy := p.companyApprovedById.bind db.users.find?
  transferInitiatedBy := p.transferInitiatedById.bind db.users.find?
  marketerBankAccount := p.marketerBankAccountId.bind db.marketerBankAccounts.find?
  commissionAllocations := db.allocationsOf p.payoutId

structure PayoutItem where
  payoutId : String
  marketer : Option UserSummary
  amount : ℚ
  status : CommissionPayoutStatus
  transferCode : Option String
  requestedAt : DateTime
  paidAt : Option DateTime
  transferInitiatedAt : Option DateTime
  transferCompletedAt : Option DateTime
  transferFailedAt : Option DateTime
  transferFailReason : Option String
  bankAccount : Option MaskedAccount
  allocationsCount : ℕ
deriving DecidableEq

def PayoutRecord.item (r : PayoutRecord) : PayoutItem where
  payoutId := r.payout.payoutId
  marketer := r.user.map User.summary
  amount := r.payout.amount
  status := r.payout.status
  transferCode := r.payout.transferCode
  requestedAt := r.payout.requestedAt
  paidAt := r.payout.paidAt
  transferInitiatedAt := r.payout.transferInitiatedAt
  transferCompletedAt := r.payout.transferCompletedAt
  transferFailedAt := r.payout.transferFailedAt
  transferFailReason := r.payout.transferFailReason
  bankAccount := r.marketerBankAccount.map MarketerBankAccount.masked
  allocationsCount := r.commissionAllocations.length

/-- The pages there are. Their number is null where the limit is zero. -/
structure Pagination where
  currentPage : ℤ
  limit : ℤ
  total : ℕ
  totalPages : Option ℤ
  hasNextPage : Bool
  hasPreviousPage : Bool
deriving DecidableEq

/-- With a limit of zero there are infinitely many pages, unless nothing is found. -/
def pagination (page limit : ℤ) (total : ℕ) : Pagination where
  currentPage := page
  limit := limit
  total := total
  totalPages := if limit = 0 then none else some ((total : ℚ) / limit).ceil
  hasNextPage := if limit = 0 then total ≠ 0 else page < ((total : ℚ) / limit).ceil
  hasPreviousPage := 1 < page

structure PayoutPage where
  items : List PayoutItem
  pagination : Pagination
deriving DecidableEq

/-- A commission as it is shown with an allocation. -/
structure CommissionSummary where
  commissionId : String
  amount : ℚ
  reservedAmount : ℚ
  status : CommissionStatus
  createdAt : DateTime
deriving DecidableEq

/-- An allocation is named by its payout and its commission. -/
structure AllocationSummary where
  allocationId : String × String
  allocatedAmount : ℚ
  status : CommissionAllocationStatus
  commission : CommissionSummary
deriving DecidableEq

def JoinedAllocation.summary (a : JoinedAllocation) : AllocationSummary where
  allocationId := a.allocation.key
  allocatedAmount := a.allocation.allocatedAmount
  status := a.allocation.status
  commission := ⟨a.commission.commissionId, a.commission.amount, a.commission.reservedAmount,
    a.commission.status, a.commission.createdAt⟩

structure PayoutDetails where
  item : PayoutItem
  company : Option (String × String)
  adminApprovedAt : Option DateTime
  adminApprovedBy : Option UserSummary
  companyApprovedAt : Option DateTime
  companyApprovedBy : Option UserSummary
  transferInitiatedBy : Option UserSummary
  allocations : List AllocationSummary
deriving DecidableEq

/-- The details of a payout: what a list shows of it, where the allocations are only
counted, and more. -/
def PayoutRecord.details (r : PayoutRecord) : PayoutDetails where
  item := r.item
  company := r.company.map fun c => (c.companyId, c.name)
  adminApprovedAt := r.payout.adminApprovedAt
  adminApprovedBy := r.adminApprovedBy.map User.summary
  companyApprovedAt := r.payout.companyApprovedAt
  companyApprovedBy := r.companyApprovedBy.map User.summary
  transferInitiatedBy := r.transferInitiatedBy.map User.summary
  allocations := r.commissionAllocations.map JoinedAllocation.summary

structure PayoutQuery where
  status : Option CommissionPayoutStatus := none
  page : Option ℤ := none
  limit : Option ℤ := none

namespace CommissionService

/-- `skip` and `take`: a negative `take` counts from the end. -/
def paginate {α : Type} (rows : List α) (skip take : ℤ) : Except AppError (List α) :=
  if skip < 0 then
    .error (.error s!"Invalid value for skip argument: Value can only be positive, found: {skip}")
  else if take < 0 then .ok ((rows.reverse.drop skip.toNat).take take.natAbs).reverse
  else .ok ((rows.drop skip.toNat).take take.toNat)

/-- The pages of one size make up the rows. -/
theorem mem_iff_exists_page {α : Type} {rows : List α} {limit : ℤ} (h : 0 < limit) {a : α} :
    a ∈ rows ↔ ∃ page ≥ 1, ∃ found, paginate rows ((page - 1) * limit) limit = .ok found ∧
      a ∈ found := by
  lift limit to ℕ using h.le
  constructor
  · intro ha
    obtain ⟨i, hi, rfl⟩ := List.getElem_of_mem ha
    have hpos : 0 < limit := by exact_mod_cast h
    have hskip : ((i / limit : ℕ) + 1 - 1 : ℤ) * limit = (i / limit * limit : ℕ) := by
      rw [add_sub_cancel_right, Nat.cast_mul]
    have hpage : (1 : ℤ) ≤ (i / limit : ℕ) + 1 := Int.le_add_of_nonneg_left (Int.natCast_nonneg _)
    refine ⟨(i / limit : ℕ) + 1, hpage, (rows.drop (i / limit * limit)).take limit, ?_, ?_⟩
    · rw [hskip, paginate, if_neg (by omega), if_neg (by omega), Int.toNat_natCast,
        Int.toNat_natCast]
    · -- the row stands on its page at the remainder
      have hdiv : i / limit * limit + i % limit = i := Nat.div_add_mod' i limit
      have hrest : i % limit < limit := Nat.mod_lt i hpos
      refine List.mem_of_getElem? (i := i % limit) ?_
      rw [List.getElem?_take_of_lt hrest, List.getElem?_drop, hdiv, List.getElem?_eq_getElem hi]
  · rintro ⟨page, hpage, found, hfound, ha⟩
    have hskip : 0 ≤ (page - 1) * limit := Int.mul_nonneg (Int.sub_nonneg_of_le hpage) h.le
    rw [paginate, if_neg (by omega), if_neg (by omega)] at hfound
    cases hfound
    exact List.mem_of_mem_drop (List.mem_of_mem_take ha)

/-- The payouts that a role sees. The ADMIN branch sets no condition. -/
def payoutScope (userId : String) (currentUser : User) :
    Role → Except AppError (CommissionPayoutRequest → Bool)
  | .marketer => .ok fun p => p.userId = userId
  | .company =>
    match currentUser.companyId with
    | none => .error (.error "Argument companyId must not be null.")
    | some companyId => .ok fun p => p.companyId = companyId
  | .admin => .ok fun _ => true
  | _ => .error (.forbidden "Unauthorized")

def getPayoutRequests (userId : String) (role : Role) (params : PayoutQuery) (db : Database) :
    Except AppError PayoutPage :=
  let page := params.page.getD 1
  let limit := params.limit.getD 20
  match db.users.find? userId with
  | none => .error (.notFound "User not found")
  | some currentUser =>
    match payoutScope userId currentUser role with
    | .error err => .error err
    | .ok scope =>
      let found := (db.commissionPayoutRequests.rows.filter
        (fun p => params.status.all (p.status = ·) ∧ scope p)).map db.payoutRecord
      let sorted := found.insertionSort (fun a b => b.payout.requestedAt ≤ a.payout.requestedAt)
      match paginate sorted ((page - 1) * limit) limit with
      | .error err => .error err
      | .ok items => .ok ⟨items.map PayoutRecord.item, pagination page limit found.length⟩

/-- Whether a role sees the payout it has asked for. -/
def checkVisible (userId : String) (currentUser : User) (payout : CommissionPayoutRequest) :
    Role → Except AppError Unit
  | .marketer =>
    if payout.userId ≠ userId then .error (.notFound "Payout request not found") else .ok ()
  | .company =>
    if some payout.companyId ≠ currentUser.companyId then
      .error (.notFound "Payout request not found")
    else .ok ()
  | .admin => .ok ()
  | _ => .error (.forbidden "Unauthorized")

def getPayoutById (payoutId userId : String) (role : Role) (db : Database) :
    Except AppError PayoutDetails :=
  match db.users.find? userId with
  | none => .error (.notFound "User not found")
  | some currentUser =>
    match (db.commissionPayoutRequests.find? payoutId).map db.payoutRecord with
    | none => .error (.notFound "Payout request not found")
    | some record =>
      match checkVisible userId currentUser record.payout role with
      | .error err => .error err
      | .ok () => .ok record.details

end CommissionService
end InstalFlow
