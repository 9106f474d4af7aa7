import InstalFlow.TransferWebhooks

/-!
# The transfer worker

The job that asks Paystack for the transfer of a payout, and the `failed`
listener that runs after each failed attempt and acts after the last one. What
Paystack answers is a parameter; a field that its answer lacks is `none`, which
leaves the column it is written to as it was.
-/

namespace InstalFlow
open Relational

structure Paystack where
  createTransferRecipient (name accountNumber bankCode : String) : Except String (Option String)
  initiateTransfer (amountKobo : ℚ) (recipientCode : Option String) (reference reason : String) :
    Except String (Option String)

inductive TransferJobResult
  | skipped
  | success (transferCode : Option String)

namespace TransferWorker

/-- The stored recipient code, or the one Paystack creates, which is stored first. -/
def resolveRecipient (paystack : Paystack) (bank : MarketerBankAccount) (db : Database) :
    Except AppError (Option String × Database) :=
  match bank.recipientCode with
  | some code => .ok (some code, db)
  | none =>
    match paystack.createTransferRecipient bank.accountName bank.accountNumber bank.bankCode with
    | .error message => .error (.error message)
    | .ok recipientCode =>
      let marketerBankAccounts := db.marketerBankAccounts.update bank.accountId
        (fun b => { b with recipientCode := recipientCode.or b.recipientCode })
      .ok (recipientCode, { db with marketerBankAccounts })

def recordTransferInit (payout : CommissionPayoutRequest) (transferCode : Option String)
    (db : Database) : Except AppError Database :=
  post
    { reference := "TRANSFER_INIT_" ++ payout.payoutId
      description := "Transfer initiated for marketer " ++ payout.userId
      companyId := some payout.companyId
      entries :=
        [{ accountName := "COMMISSION_PAYABLE", accountType := .liability, debit := payout.amount },
         { accountName := "PAYOUTS_IN_TRANSIT", accountType := .asset, credit := payout.amount }] }
    (CommissionService.updatePayout db payout.payoutId fun p =>
      { p with transferCode := transferCode.or p.transferCode })

def process (paystack : Paystack) (payoutId : String) (db : Database) :
    Database × Except AppError TransferJobResult :=
  match db.commissionPayoutRequests.find? payoutId with
  | none => (db, .error (.error s!"[transfer-worker] Payout not found: {payoutId}"))
  | some payout =>
    if payout.status ≠ .transferInitiated then (db, .ok .skipped)
    else
      match payout.marketerBankAccountId.bind db.marketerBankAccounts.find? with
      | none => (db, .error (.error
          s!"[transfer-worker] No bank account linked to payout {payoutId}"))
      | some bank =>
        match resolveRecipient paystack bank db with
        | .error err => (db, .error err)
        | .ok (recipientCode, db) =>
          if payout.transferCode.isSome then (db, .ok (.success payout.transferCode))
          else
            match paystack.initiateTransfer (payout.amount * 100) recipientCode payout.payoutId
                ("Commission payout — " ++ payout.userId) with
            | .error message => (db, .error (.error message))
            | .ok transferCode =>
              match recordTransferInit payout transferCode db with
              | .error err => (db, .error err)
              | .ok db => (db, .ok (.success payout.transferCode))

structure FailedJob where
  payoutId : String
  attemptsMade : ℕ
  attempts : Option ℕ := some 3

/-- `job.attemptsMade >= (job.opts.attempts ?? 3)` -/
def FailedJob.exhausted (job : FailedJob) : Bool := job.attempts.getD 3 ≤ job.attemptsMade

/-- The `failed` listener. Its update has no condition on the status. -/
def onFailed (job : FailedJob) (message : String) (now : DateTime) (db : Database) :
    Except AppError Database :=
  if job.exhausted then
    match db.commissionPayoutRequests.find? job.payoutId with
    | none => .error (.error s!"[transfer-worker] Payout not found: {job.payoutId}")
    | some _ => .ok (CommissionService.updatePayout db job.payoutId fun p =>
        { p with
          status := .transferFailed
          transferFailedAt := some now
          transferFailReason := some message })
  else .ok db

end TransferWorker
end InstalFlow
