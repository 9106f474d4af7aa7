import InstalFlow.CommissionService

/-!
# The transfer webhooks of commission payouts

`handleTransferSuccess`, `handleTransferFailed` and `handleTransferReversed`
after the dispatch on the settlement prefix. The three read the payout with its
allocations and commissions, skip it when it already has the status they set,
and otherwise run one transaction whose writes are computed from that read.
-/

namespace InstalFlow
open Relational

structure TransferPayload where
  reference : String
  transferCode : Option String := none
  failures : List (Option String) := []

/-- `payload.failures?.[0]?.reason ?? "Transfer failed"` -/
def TransferPayload.failReason (payload : TransferPayload) : String :=
  (payload.failures.head?.bind id).getD "Transfer failed"

structure LoadedPayout where
  payout : CommissionPayoutRequest
  commissionAllocations : List JoinedAllocation

def loadPayout (payoutId : String) (db : Database) : Option LoadedPayout :=
  (db.commissionPayoutRequests.find? payoutId).map (⟨·, db.allocationsOf payoutId⟩)

def transferPosting (reference description : String) (payout : CommissionPayoutRequest)
    (debit credit : String × AccountType) : LedgerTransaction where
  reference := reference
  description := description
  companyId := some payout.companyId
  entries :=
    [{ accountName := debit.1, accountType := debit.2, debit := payout.amount },
     { accountName := credit.1, accountType := credit.2, credit := payout.amount }]

def post (data : LedgerTransaction) (db : Database) : Except AppError Database :=
  match LedgerService.recordTransaction data db.ledger with
  | .error err => .error err
  | .ok ledger => .ok { db with ledger }

/-- What distinguishes one transfer handler from another: the status it sets and
is skipped in, the payout columns it writes, the allocations it moves and how,
and what it posts. -/
structure TransferHandler where
  target : CommissionPayoutStatus
  mark : TransferPayload → DateTime → CommissionPayoutRequest → CommissionPayoutRequest
  mark_payoutId : ∀ payload now p, (mark payload now p).payoutId = p.payoutId
  moves : CommissionAllocationStatus
  move : Database → JoinedAllocation → Database
  posting : CommissionPayoutRequest → LedgerTransaction

namespace TransferHandler

/-- The transaction of a handler, on what it has read before. -/
def commit (h : TransferHandler) (payload : TransferPayload) (now : DateTime) (p : LoadedPayout)
    (db : Database) : Except AppError Database :=
  let db := CommissionService.updatePayout db p.payout.payoutId (h.mark payload now)
    (h.mark_payoutId payload now)
  let db := (withStatus h.moves p.commissionAllocations).foldl h.move db
  post (h.posting p.payout) db

def handle (h : TransferHandler) (payload : TransferPayload) (now : DateTime) (db : Database) :
    Except AppError Database :=
  match loadPayout payload.reference db with
  | none => .ok db
  | some p => if p.payout.status = h.target then .ok db else h.commit payload now p db

end TransferHandler

def handleTransferSuccess : TransferHandler where
  target := .paid
  mark _ now p := { p with status := .paid, paidAt := some now, transferCompletedAt := some now }
  mark_payoutId _ _ _ := rfl
  moves := .reserved
  move := settleAllocation
  posting p := transferPosting ("TRANSFER_SUCCESS_" ++ p.payoutId)
    ("Transfer confirmed for marketer " ++ p.userId) p
    ("PAYOUTS_IN_TRANSIT", .asset) ("BANK_SETTLED", .asset)

def handleTransferFailed : TransferHandler where
  target := .transferFailed
  mark payload now p :=
    { p with
      status := .transferFailed
      transferFailedAt := some now
      transferFailReason := some payload.failReason }
  mark_payoutId _ _ _ := rfl
  moves := .reserved
  move := releaseAllocation
  posting p := transferPosting ("TRANSFER_FAILED_" ++ p.payoutId)
    ("Transfer failed — restoring commission liability for " ++ p.userId) p
    ("PAYOUTS_IN_TRANSIT", .asset) ("COMMISSION_PAYABLE", .liability)

def handleTransferReversed : TransferHandler where
  target := .transferReversed
  mark _ now p :=
    { p with
      status := .transferReversed
      transferFailedAt := some now
      transferFailReason := some "Transfer reversed by Paystack" }
  mark_payoutId _ _ _ := rfl
  moves := .paid
  move := restoreAllocation
  posting p := transferPosting ("TRANSFER_REVERSED_" ++ p.payoutId)
    ("Transfer reversed — commission liability restored for " ++ p.userId) p
    ("BANK_SETTLED", .asset) ("COMMISSION_PAYABLE", .liability)

end InstalFlow
