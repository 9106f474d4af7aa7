import InstalFlow.TransferWorker

/-!
# Merchant settlements

The transfer of a settlement, as that of a commission payout: a settlement is
queued when its company has a verified account, its job asks Paystack for the
transfer, and the webhook decides how it ends. References of settlements carry
a prefix, by which the webhook tells them from payouts.
-/

namespace InstalFlow
open Relational

namespace MerchantSettlementStatus

def name : MerchantSettlementStatus → String
  | .generated => "GENERATED"
  | .approved => "APPROVED"
  | .transferInitiated => "TRANSFER_INITIATED"
  | .transferSuccess => "TRANSFER_SUCCESS"
  | .transferFailed => "TRANSFER_FAILED"
  | .transferReversed => "TRANSFER_REVERSED"

/-- `RETRYABLE_STATUSES` -/
def retryable : MerchantSettlementStatus → Bool
  | .transferFailed | .transferReversed => true
  | _ => false

end MerchantSettlementStatus

namespace MerchantSettlementService

def updateSettlement (db : Database) (settlementId : String)
    (f : MerchantSettlementRequest → MerchantSettlementRequest)
    (hf : ∀ s, (f s).settlementId = s.settlementId := by intro s; rfl) : Database :=
  { db with
    merchantSettlementRequests := db.merchantSettlementRequests.update settlementId f hf }

def audit (entry : MerchantSettlementAuditTrail) (db : Database) : Database :=
  { db with merchantSettlementAuditTrail := db.merchantSettlementAuditTrail ++ [entry] }

def eligible (db : Database) (s : MerchantSettlementRequest) : Bool :=
  s.status = .approved ∧ s.transferInitiatedAt = none ∧
    db.companyBankAccounts.rows.any (fun b => b.companyId = s.companyId ∧ b.isPrimary ∧ b.isVerified)

def queueTransfer (now : DateTime) (db : Database) (s : MerchantSettlementRequest) : Database :=
  let db := updateSettlement db s.settlementId fun s =>
    { s with
      status := .transferInitiated
      transferQueuedAt := some now
      transferInitiatedAt := some now }
  audit
    { settlementId := s.settlementId, action := "TRANSFER_INITIATED", actorType := .scheduler
      outcome := "SUCCESS"
      details := "Transfer auto-queued — company has a verified primary bank account." } db

/-- The settlements queued, for each of which a transfer job is added. -/
def queueEligibleTransfers (now : DateTime) (db : Database) : List String × Database :=
  let eligible := db.merchantSettlementRequests.rows.filter (eligible db)
  (eligible.map MerchantSettlementRequest.settlementId, eligible.foldl (queueTransfer now) db)

def retryTransfer (settlementId superAdminUserId : String) (now : DateTime) (db : Database) :
    Except AppError (ℕ × Database) :=
  if (db.users.find? superAdminUserId).map User.role ≠ some .superAdmin then
    .error (.unauthorized "Only SUPER_ADMIN can retry a settlement transfer.")
  else
    match db.merchantSettlementRequests.find? settlementId with
    | none => .error (.notFound "Settlement not found.")
    | some settlement =>
      if !settlement.status.retryable then
        .error (.badRequest s!"Cannot retry. Current status: {settlement.status.name}")
      else
        let nextRetryCount := settlement.retryCount + 1
        let db := updateSettlement db settlementId fun s =>
          { s with
            status := .transferInitiated
            retryCount := nextRetryCount
            lastRetryAt := some now
            retryInitiatedById := some superAdminUserId
            transferFailedAt := none
            transferFailReason := none
            transferCode := none }
        .ok (nextRetryCount, audit
          { settlementId, action := "RETRY_INITIATED", actorType := .user
            performedById := some superAdminUserId, outcome := "SUCCESS"
            details := s!"Retry #{nextRetryCount} initiated by SUPER_ADMIN." } db)

end MerchantSettlementService

def settlementPosting (reference description : String) (settlement : MerchantSettlementRequest)
    (debit credit : String × AccountType) : LedgerTransaction where
  reference := reference
  description := description
  companyId := some settlement.companyId
  entries :=
    [{ accountName := debit.1, accountType := debit.2, debit := settlement.amount },
     { accountName := credit.1, accountType := credit.2, credit := settlement.amount }]

/-- `SETTLEMENT_REFERENCE_PREFIX` -/
def settlementReferencePrefix : String := "MST-"

/-- The settlement a reference names, if it carries the prefix. -/
def settlementReference (reference : String) : Option String :=
  if settlementReferencePrefix.toList.isPrefixOf reference.toList then
    some (String.ofList (reference.toList.drop settlementReferencePrefix.toList.length))
  else none

namespace MerchantSettlementTransferWorker
open MerchantSettlementService

def resolveRecipient (paystack : Paystack) (bank : CompanyBankAccount) (db : Database) :
    Except AppError (Option String × Database) :=
  match bank.recipientCode with
  | some code => .ok (some code, db)
  | none =>
    match paystack.createTransferRecipient bank.accountName bank.accountNumber bank.bankCode with
    | .error message => .error (.error message)
    | .ok recipientCode =>
      let companyBankAccounts := db.companyBankAccounts.update bank.accountId
        (fun b => { b with recipientCode := recipientCode.or b.recipientCode })
      .ok (recipientCode, { db with companyBankAccounts })

def initPosting (settlement : MerchantSettlementRequest) : LedgerTransaction :=
  settlementPosting ("SETTLEMENT_TRANSFER_INIT_" ++ settlement.settlementId)
    ("Settlement transfer initiated for company " ++ settlement.companyId) settlement
    ("MERCHANT_PAYABLE", .liability) ("PAYOUTS_IN_TRANSIT", .asset)

def recordTransferInit (settlement : MerchantSettlementRequest) (transferCode : Option String)
    (now : DateTime) (db : Database) : Except AppError Database :=
  let db := updateSettlement db settlement.settlementId fun s =>
    { s with transferCode := transferCode.or s.transferCode, transferCodeReceivedAt := some now }
  post (initPosting settlement) (audit
    { settlementId := settlement.settlementId, action := "TRANSFER_INITIATED", actorType := .worker
      outcome := "SUCCESS"
      details := "Paystack transfer initiated, transferCode=" ++
        transferCode.getD "undefined" ++ "." } db)

def process (paystack : Paystack) (settlementId : String) (now : DateTime) (db : Database) :
    Database × Except AppError TransferJobResult :=
  match db.merchantSettlementRequests.find? settlementId with
  | none => (db, .error (.error
      s!"[settlement-transfer-worker] Settlement not found: {settlementId}"))
  | some settlement =>
    if settlement.status ≠ .transferInitiated then (db, .ok .skipped)
    else
      match settlement.companyBankAccountId.bind db.companyBankAccounts.find? with
      | none => (db, .error (.error
          s!"[settlement-transfer-worker] No bank account linked to settlement {settlementId}"))
      | some bank =>
        match resolveRecipient paystack bank db with
        | .error err => (db, .error err)
        | .ok (recipientCode, db) =>
          if settlement.transferCode.isSome then (db, .ok (.success settlement.transferCode))
          else
            match paystack.initiateTransfer (settlement.amount * 100) recipientCode
                (settlementReferencePrefix ++ settlement.settlementId)
                ("Merchant settlement — company " ++ settlement.companyId) with
            | .error message => (db, .error (.error message))
            | .ok transferCode =>
              match recordTransferInit settlement transferCode now db with
              | .error err => (db, .error err)
              | .ok db => (db, .ok (.success settlement.transferCode))

structure FailedSettlementJob where
  settlementId : String
  attemptsMade : ℕ
  attempts : Option ℕ := some 3

/-- `job?.data?.settlementId && job.attemptsMade >= (job.opts.attempts ?? 3)` -/
def FailedSettlementJob.exhausted (job : FailedSettlementJob) : Bool :=
  job.settlementId ≠ "" ∧ job.attempts.getD 3 ≤ job.attemptsMade

def giveUp (message : String) (now : DateTime) (s : MerchantSettlementRequest) :
    MerchantSettlementRequest :=
  { s with
    status := .transferFailed
    transferFailedAt := some now
    transferFailReason := some message }

/-- The `failed` listener. Its update has no condition on the status, and an entry of the
audit trail needs its settlement. -/
def onFailed (job : FailedSettlementJob) (message : String) (now : DateTime) (db : Database) :
    Database :=
  if job.exhausted then
    match db.merchantSettlementRequests.find? job.settlementId with
    | none => db
    | some _ => audit
        { settlementId := job.settlementId, action := "TRANSFER_FAILED", actorType := .worker
          outcome := "FAILURE", details := message }
        (updateSettlement db job.settlementId (giveUp message now) fun _ => rfl)
  else db

end MerchantSettlementTransferWorker

/-- What distinguishes one settlement handler from another: the status it sets and
is skipped in, the columns and audit entries it writes, and what it posts. -/
structure SettlementHandler where
  target : MerchantSettlementStatus
  mark : TransferPayload → DateTime → MerchantSettlementRequest → MerchantSettlementRequest
  mark_settlementId : ∀ payload now s, (mark payload now s).settlementId = s.settlementId
  audits : TransferPayload → MerchantSettlementRequest → List MerchantSettlementAuditTrail
  posting : MerchantSettlementRequest → LedgerTransaction

namespace SettlementHandler
open MerchantSettlementService

def commit (h : SettlementHandler) (payload : TransferPayload) (now : DateTime)
    (settlement : MerchantSettlementRequest) (db : Database) : Except AppError Database :=
  let db := updateSettlement db settlement.settlementId (h.mark payload now)
    (h.mark_settlementId payload now)
  post (h.posting settlement)
    ((h.audits payload settlement).foldl (fun db entry => audit entry db) db)

def handle (h : SettlementHandler) (settlementId : String) (payload : TransferPayload)
    (now : DateTime) (db : Database) : Except AppError Database :=
  match db.merchantSettlementRequests.find? settlementId with
  | none => .ok db
  | some settlement =>
    if settlement.status = h.target then .ok db else h.commit payload now settlement db

end SettlementHandler

def handleSettlementTransferSuccess : SettlementHandler where
  target := .transferSuccess
  mark _ now s :=
    { s with
      status := .transferSuccess
      webhookReceivedAt := some now
      transferCompletedAt := some now }
  mark_settlementId _ _ _ := rfl
  audits payload s :=
    [{ settlementId := s.settlementId, action := "WEBHOOK_RECEIVED", actorType := .webhook
       outcome := "SUCCESS"
       details := "transfer.success received, transferCode=" ++
         payload.transferCode.getD "undefined" ++ "." },
     { settlementId := s.settlementId, action := "TRANSFER_SUCCESS", actorType := .webhook
       outcome := "SUCCESS"
       details := "Settlement marked complete by verified Paystack webhook." }]
  posting s := settlementPosting ("SETTLEMENT_TRANSFER_SUCCESS_" ++ s.settlementId)
    ("Settlement transfer confirmed for company " ++ s.companyId) s
    ("PAYOUTS_IN_TRANSIT", .asset) ("BANK_SETTLED", .asset)

def handleSettlementTransferFailed : SettlementHandler where
  target := .transferFailed
  mark payload now s :=
    { s with
      status := .transferFailed
      webhookReceivedAt := some now
      transferFailedAt := some now
      transferFailReason := some payload.failReason }
  mark_settlementId _ _ _ := rfl
  audits payload s :=
    [{ settlementId := s.settlementId, action := "TRANSFER_FAILED", actorType := .webhook
       outcome := "FAILURE", details := payload.failReason }]
  posting s := settlementPosting ("SETTLEMENT_TRANSFER_FAILED_" ++ s.settlementId)
    ("Settlement transfer failed — restoring merchant liability for company " ++ s.companyId) s
    ("PAYOUTS_IN_TRANSIT", .asset) ("MERCHANT_PAYABLE", .liability)

def handleSettlementTransferReversed : SettlementHandler where
  target := .transferReversed
  mark _ now s :=
    { s with
      status := .transferReversed
      webhookReceivedAt := some now
      transferFailedAt := some now
      transferFailReason := some "Transfer reversed by Paystack" }
  mark_settlementId _ _ _ := rfl
  audits _ s :=
    [{ settlementId := s.settlementId, action := "TRANSFER_REVERSED", actorType := .webhook
       outcome := "FAILURE", details := "Transfer reversed by Paystack." }]
  posting s := settlementPosting ("SETTLEMENT_TRANSFER_REVERSED_" ++ s.settlementId)
    ("Settlement transfer reversed — merchant liability restored for company " ++ s.companyId) s
    ("BANK_SETTLED", .asset) ("MERCHANT_PAYABLE", .liability)

end InstalFlow
