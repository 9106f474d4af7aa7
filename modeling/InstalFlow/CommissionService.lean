import InstalFlow.CommissionAllocations
import Mathlib.Data.List.Sort

/-!
# The commission service

Payout requests with their FIFO allocation, the two approvals, and the
initiation of a transfer with the re-reservation of a failed payout. Every
refusal comes before the first write or inside the transaction that it rolls
back, so an error leaves the database as it was. Events and notifications are
left out.
-/

namespace InstalFlow
open Relational

namespace CommissionPayoutStatus

def name : CommissionPayoutStatus → String
  | .pendingAdminApproval => "PENDING_ADMIN_APPROVAL"
  | .pendingCompanyApproval => "PENDING_COMPANY_APPROVAL"
  | .approved => "APPROVED"
  | .rejected => "REJECTED"
  | .transferInitiated => "TRANSFER_INITIATED"
  | .paid => "PAID"
  | .transferFailed => "TRANSFER_FAILED"
  | .transferReversed => "TRANSFER_REVERSED"

/-- The statuses of a payout that blocks a new request. -/
def inProgress : CommissionPayoutStatus → Bool
  | .pendingAdminApproval | .pendingCompanyApproval | .approved | .transferInitiated => true
  | _ => false

def initiatable : CommissionPayoutStatus → Bool
  | .approved | .transferFailed | .transferReversed => true
  | _ => false

end CommissionPayoutStatus

/-- `toFixed(2)` of a decimal, rounding half away from zero. -/
def toFixed2 (x : ℚ) : String :=
  let cents := (|x| * 100 + 1 / 2).floor.toNat
  let fraction := toString (cents % 100)
  (if x < 0 then "-" else "") ++ toString (cents / 100) ++ "." ++
    (if fraction.length < 2 then "0" ++ fraction else fraction)

structure TransferJobData where
  payoutId : String
  initiatedByUserId : String

namespace CommissionService

structure Requester where
  user : User
  companyId : String
  creatorRole : Option Role

def findRequester (userId : String) (amount : ℚ) (db : Database) : Except AppError Requester :=
  match db.users.find? userId with
  | none => .error (.notFound "User not found")
  | some user =>
    match user.companyId with
    | none => .error (.badRequest "User has no associated company")
    | some companyId =>
      if amount ≤ 0 then .error (.badRequest "Requested amount must be greater than zero")
      else .ok
        { user, companyId
          creatorRole := (user.createdById.bind db.users.find?).map User.role }

def payoutInProgress (userId : String) (db : Database) : Option CommissionPayoutRequest :=
  db.commissionPayoutRequests.rows.find? (fun p => p.userId = userId ∧ p.status.inProgress)

/-- The second read of `requestPayout`, made outside its transaction. -/
def checkPayoutInProgress (r : Requester) (db : Database) : Except AppError Role :=
  match payoutInProgress r.user.userId db with
  | some existing => .error (.badRequest
      s!"You already have a payout in progress (status: {existing.status.name})")
  | none =>
    match r.creatorRole with
    | none => .error (.badRequest "Marketer has no creator relationship configured")
    | some role => .ok role

def eligible (userId : String) (c : Commission) : Bool :=
  c.userId = userId ∧ c.status ≠ .paid ∧ c.status ≠ .frozen ∧ c.reservedAmount < c.amount

def lockCommissions (userId : String) (db : Database) : List Commission :=
  (db.commissions.rows.filter (eligible userId)).insertionSort
    (fun a b => a.createdAt ≤ b.createdAt)

def available (c : Commission) : ℚ := c.amount - c.reservedAmount

def totalAvailable (commissions : List Commission) : ℚ := (commissions.map available).sum

structure AllocationEntry where
  commissionId : String
  toAllocate : ℚ
  currentReserved : ℚ
  totalAmount : ℚ

def planAllocations : ℚ → List Commission → List AllocationEntry
  | _, [] => []
  | remaining, c :: cs =>
    if remaining ≤ 0 then []
    else if available c ≤ 0 then planAllocations remaining cs
    else
      let toAllocate := min remaining (available c)
      ⟨c.commissionId, toAllocate, c.reservedAmount, c.amount⟩ ::
        planAllocations (remaining - toAllocate) cs

def reserveEntry (payoutId : String) (db : Database) (e : AllocationEntry) :
    Except AppError Database :=
  match createRow db.commissionAllocations ⟨payoutId, e.commissionId, e.toAllocate, .reserved⟩
      ["payoutId", "commissionId"] with
  | .error err => .error err
  | .ok commissionAllocations =>
    let newReservedAmount := e.currentReserved + e.toAllocate
    .ok (Database.setReservation { db with commissionAllocations } e.commissionId newReservedAmount
      (deriveReservationStatus newReservedAmount e.totalAmount))

def reservePlan (payoutId : String) : Database → List AllocationEntry → Except AppError Database
  | db, [] => .ok db
  | db, e :: es =>
    match reserveEntry payoutId db e with
    | .error err => .error err
    | .ok db => reservePlan payoutId db es

/-- An ADMIN requester, like one whose creator is a COMPANY, skips the admin approval. -/
def initialStatus (r : Requester) (creatorRole : Role) : CommissionPayoutStatus :=
  if creatorRole = .company ∨ r.user.role = .admin then .pendingCompanyApproval
  else .pendingAdminApproval

/-- The transaction of `requestPayout`. The lock on the commissions is its first
statement, so the rows it computes with are those it commits against. -/
def createPayout (r : Requester) (creatorRole : Role) (amount : ℚ) (payoutId : String)
    (now : DateTime) (db : Database) : Except AppError (CommissionPayoutRequest × Database) :=
  let commissions := lockCommissions r.user.userId db
  if totalAvailable commissions < amount then
    .error (.badRequest (s!"Insufficient available balance. " ++
      s!"Available: ₦{toFixed2 (totalAvailable commissions)}, Requested: ₦{toFixed2 amount}"))
  else
    let request : CommissionPayoutRequest :=
      { payoutId, userId := r.user.userId, companyId := r.companyId, amount
        status := initialStatus r creatorRole, requestedAt := now }
    match createRow db.commissionPayoutRequests request ["payoutId"] with
    | .error err => .error err
    | .ok commissionPayoutRequests =>
      match reservePlan payoutId { db with commissionPayoutRequests }
          (planAllocations amount commissions) with
      | .error err => .error err
      | .ok db => .ok (request, db)

def requestPayout (userId : String) (amount : ℚ) (payoutId : String) (now : DateTime)
    (db : Database) : Except AppError (CommissionPayoutRequest × Database) :=
  match findRequester userId amount db with
  | .error err => .error err
  | .ok r =>
    match checkPayoutInProgress r db with
    | .error err => .error err
    | .ok role => createPayout r role amount payoutId now db

def updatePayout (db : Database) (payoutId : String)
    (f : CommissionPayoutRequest → CommissionPayoutRequest)
    (hf : ∀ p, (f p).payoutId = p.payoutId := by intro p; rfl) : Database :=
  { db with commissionPayoutRequests := db.commissionPayoutRequests.update payoutId f hf }

def adminApprovePayout (payoutId adminId : String) (now : DateTime) (db : Database) :
    Except AppError Database :=
  match db.users.find? adminId with
  | none => .error (.forbidden "Only admins can approve")
  | some admin =>
    if admin.role ≠ .admin then .error (.forbidden "Only admins can approve")
    else
      match db.commissionPayoutRequests.find? payoutId with
      | none => .error (.notFound "Payout request not found")
      | some payout =>
        if payout.status ≠ .pendingAdminApproval then
          .error (.notFound "Payout request not found")
        else if some payout.companyId ≠ admin.companyId then
          .error (.forbidden "This payout does not belong to your company")
        else .ok (updatePayout db payoutId fun p =>
          { p with
            status := .pendingCompanyApproval
            adminApprovedById := some adminId
            adminApprovedAt := some now })

def companyApprovePayout (payoutId companyUserId : String) (now : DateTime) (db : Database) :
    Except AppError Database :=
  match db.users.find? companyUserId with
  | none => .error (.forbidden "Only company accounts can approve payouts")
  | some approver =>
    if approver.role ≠ .company then
      .error (.forbidden "Only company accounts can approve payouts")
    else
      match db.commissionPayoutRequests.find? payoutId with
      | none => .error (.notFound "Payout request not found")
      | some payout =>
        if some payout.companyId ≠ approver.companyId then
          .error (.forbidden "This payout does not belong to your company")
        else if payout.status ≠ .pendingCompanyApproval then
          .error (.badRequest "Payout is not awaiting company approval")
        else .ok (updatePayout db payoutId fun p =>
          { p with
            status := .approved
            companyApprovedById := some companyUserId
            companyApprovedAt := some now })

def primaryBankAccount (userId : String) (db : Database) : Option MarketerBankAccount :=
  ((db.marketerBankAccounts.rows.filter (fun b => b.userId = userId ∧ b.isPrimary)).insertionSort
    (fun a b => a.createdAt ≤ b.createdAt)).head?

/-- The checks of `initiateTransfer`: the payout to transfer and the account to pay. -/
def transferTarget (payoutId companyUserId : String) (db : Database) :
    Except AppError (CommissionPayoutRequest × MarketerBankAccount) :=
  match db.users.find? companyUserId with
  | none => .error (.forbidden "Only company accounts can initiate transfers")
  | some initiator =>
    if initiator.role ≠ .company then
      .error (.forbidden "Only company accounts can initiate transfers")
    else
      match db.commissionPayoutRequests.find? payoutId with
      | none => .error (.notFound "Payout request not found")
      | some payout =>
        if some payout.companyId ≠ initiator.companyId then
          .error (.forbidden "This payout does not belong to your company")
        else if ¬ payout.status.initiatable then
          .error (.badRequest
            s!"Cannot initiate transfer. Current status: {payout.status.name}")
        else
          match primaryBankAccount payout.userId db with
          | none => .error (.badRequest ("Marketer has no primary bank account. " ++
              "Please ask the marketer to add one."))
          | some bank => .ok (payout, bank)

def reReserve (payoutId : String) (db : Database) : Database :=
  let db := (withStatus .released (db.allocationsOf payoutId)).foldl restoreAllocation db
  updatePayout db payoutId fun p => { p with status := .approved, transferFailReason := none }

def startTransfer (payout : CommissionPayoutRequest) (bank : MarketerBankAccount)
    (companyUserId : String) (now : DateTime) (db : Database) : Database :=
  let db := if payout.status = .transferFailed then reReserve payout.payoutId db else db
  let db :=
    if payout.status = .transferReversed then
      updatePayout db payout.payoutId fun p => { p with status := .approved }
    else db
  updatePayout db payout.payoutId fun p =>
    { p with
      status := .transferInitiated
      marketerBankAccountId := some bank.accountId
      transferInitiatedAt := some now
      transferInitiatedById := some companyUserId
      transferCode := none
      transferFailedAt := none
      transferFailReason := none }

def initiateTransfer (payoutId companyUserId : String) (now : DateTime) (db : Database) :
    Except AppError (TransferJobData × Database) :=
  match transferTarget payoutId companyUserId db with
  | .error err => .error err
  | .ok (payout, bank) =>
    .ok (⟨payoutId, companyUserId⟩, startTransfer payout bank companyUserId now db)

end CommissionService
end InstalFlow
