import InstalFlow.PaymentIntentService
import InstalFlow.CommissionAllocations
import InstalFlow.TransferWebhooks

/-!
# The payment worker

One job of the payment queue: an installment that is already PAID only has its
intent marked; otherwise the charge is verified with Paystack and one
transaction records the payment, settles the installment, accrues the
commission of the referrer, posts to the ledger and completes the contract when
no PENDING installment is left.
-/

namespace InstalFlow
open Relational

/-- `COMMISSION_ELIGIBLE_ROLES` -/
def isCommissionEligible : Option Role → Bool
  | some .marketer | some .admin => true
  | _ => false

structure PaymentJobData where
  installmentId : String
  reference : String

/-- What the verification of a charge answers; `id` is the gateway's number for it. -/
structure Verification where
  status : String
  id : Option ℕ := none
  gatewayRef : Option String := none

structure LoadedInstallment where
  installment : Installment
  contract : FinancingContract
  product : Product
  user : Option User
  referrerRole : Option Role

structure PaymentResult where
  payment : Payment
  commissionRecord : Option Commission
  percentagePaid : ℚ
  nextDueDate : Option DateTime
  financingStatus : FinancingStatus

inductive PaymentJobResult
  | alreadyProcessed
  | recorded (result : PaymentResult)

namespace PaymentWorker

/-- The installment with its contract, product, customer and the customer's
referrer. The foreign keys make the lookups of contract and product succeed. -/
def loadInstallment (installmentId : String) (db : Database) : Option LoadedInstallment := do
  let installment ← db.installments.find? installmentId
  let contract ← db.financingContracts.find? installment.financingContractId
  let product ← db.products.find? contract.productId
  let user := contract.userId.bind db.users.find?
  let referrer := (user.bind User.referredByMarketerId).bind db.users.find?
  return { installment, contract, product, user, referrerRole := referrer.map User.role }

def LoadedInstallment.marketerId (i : LoadedInstallment) : Option String :=
  i.user.bind User.referredByMarketerId

/-- The marketer to credit and the amount, when a commission is accrued. -/
def accrual (i : LoadedInstallment) : Option (String × ℚ) :=
  match LoadedInstallment.marketerId i with
  | none => none
  | some marketerId =>
    if isCommissionEligible i.referrerRole ∧ 0 < i.product.commissionRate then
      some (marketerId, i.installment.amount * (i.product.commissionRate / 100))
    else none

def commissionAmount (i : LoadedInstallment) : ℚ := ((accrual i).map Prod.snd).getD 0

def gatewayRef (v : Verification) (reference : String) : String :=
  ((v.id.map toString).or v.gatewayRef).getD reference

def providerReferenceTaken (paymentId reference : String) (db : Database) : Bool :=
  db.payments.rows.any (fun p => p.providerReference = some reference ∧ p.paymentId ≠ paymentId)

def recordPayment (installment : Installment) (reference gatewayRef paymentId : String)
    (db : Database) : Except AppError (Payment × Database) :=
  match db.payments.rows.find? (fun p => p.installmentId = installment.installmentId ∧
      p.idempotencyKey = some reference ∧ p.status = .pending) with
  | some existing =>
    if providerReferenceTaken existing.paymentId gatewayRef db then
      .error (.uniqueViolation ["providerReference"])
    else
      let confirm (p : Payment) : Payment :=
        { p with status := .success, providerReference := some gatewayRef }
      .ok (confirm existing,
        { db with payments := db.payments.update existing.paymentId confirm (fun _ => rfl) })
  | none =>
    let payment : Payment :=
      { paymentId, installmentId := installment.installmentId, amount := installment.amount
        status := .success, providerReference := some gatewayRef
        idempotencyKey := some reference }
    if providerReferenceTaken paymentId gatewayRef db then
      .error (.uniqueViolation ["providerReference"])
    else if db.payments.rows.any (fun p => p.idempotencyKey = some reference) then
      .error (.uniqueViolation ["idempotencyKey"])
    else
      match createRow db.payments payment ["paymentId"] with
      | .error err => .error err
      | .ok payments => .ok (payment, { db with payments })

def markInstallmentPaid (installmentId : String) (now : DateTime) (db : Database) : Database :=
  { db with installments :=
      db.installments.update installmentId (fun i => { i with status := .paid, paidAt := some now }) }

def accrueCommission (i : LoadedInstallment) (paymentId commissionId : String) (now : DateTime)
    (db : Database) : Except AppError (Option Commission × Database) :=
  match accrual i with
  | none => .ok (none, db)
  | some (userId, amount) =>
    let commission : Commission :=
      { commissionId, userId, paymentId := some paymentId, amount, status := .active
        createdAt := now }
    match createRow db.commissions commission ["commissionId"] with
    | .error err => .error err
    | .ok commissions => .ok (some commission, { db with commissions })

/-- The entries of a payment: the charge, the commission if there is one, and
the merchant's share if there is one. -/
def paymentEntries (amount commission : ℚ) : List LedgerEntry :=
  [{ accountName := "PAYSTACK_CLEARING", accountType := .asset, debit := amount },
   { accountName := "CUSTOMER_RECEIVABLE", accountType := .asset, credit := amount }] ++
  (if 0 < commission then
    [{ accountName := "COMMISSION_EXPENSE", accountType := .expense, debit := commission },
     { accountName := "COMMISSION_PAYABLE", accountType := .liability, credit := commission }]
  else []) ++
  (if 0 < amount - commission then
    [{ accountName := "MERCHANT_SETTLEMENT_EXPENSE", accountType := .expense,
       debit := amount - commission },
     { accountName := "MERCHANT_PAYABLE", accountType := .liability,
       credit := amount - commission }]
  else [])

def paymentPosting (i : LoadedInstallment) (reference : String) : LedgerTransaction where
  reference := reference
  description := "Installment payment for contract " ++ i.contract.contractId
  companyId := i.user.bind User.companyId
  entries := paymentEntries i.installment.amount (commissionAmount i)

/-- `Number(x.toFixed(2))` -/
def roundCents (x : ℚ) : ℚ := (x * 100 + 1 / 2).floor / 100

def percentagePaid (contractId : String) (db : Database) : ℚ :=
  let totalFinanced :=
    db.installments.sumWhere (fun i => i.financingContractId = contractId) Installment.amount
  let totalPaid := db.installments.sumWhere
    (fun i => i.financingContractId = contractId ∧ i.status = .paid) Installment.amount
  if totalFinanced = 0 then 0 else roundCents (totalPaid / totalFinanced * 100)

def nextPending (contractId : String) (db : Database) : Option Installment :=
  ((db.installments.rows.filter
    (fun i => i.financingContractId = contractId ∧ i.status = .pending)).insertionSort
      (fun a b => a.sequence ≤ b.sequence)).head?

def completeContract (contractId : String) (now : DateTime) (db : Database) : Database :=
  let financingContracts := db.financingContracts.update contractId
    (fun c => { c with status := .completed, completedAt := some now })
  { db with financingContracts }

/-- The transaction of a job. The ids of the rows it creates are the environment's. -/
def transaction (i : LoadedInstallment) (intent : PaymentIntent) (v : Verification)
    (reference paymentId commissionId : String) (now : DateTime) (db : Database) :
    Except AppError (PaymentResult × Database) := do
  let (payment, db) ← recordPayment i.installment reference (gatewayRef v reference) paymentId db
  let db := markInstallmentPaid i.installment.installmentId now db
  let (commissionRecord, db) ← accrueCommission i payment.paymentId commissionId now db
  let db ← post (paymentPosting i reference) db
  let percentage := percentagePaid i.contract.contractId db
  let next := nextPending i.contract.contractId db
  let db := if next.isNone then completeContract i.contract.contractId now db else db
  let db ← PaymentIntentService.ignoreConflict db
    (PaymentIntentService.markSuccess intent.intentId now db)
  return ({ payment, commissionRecord, percentagePaid := percentage
            nextDueDate := next.map Installment.dueDate
            financingStatus := if next.isNone then .completed else i.contract.status }, db)

def process (verifyPaystack : String → Except String Verification)
    (job : PaymentJobData) (paymentId commissionId : String) (now : DateTime) (db : Database) :
    Except AppError (PaymentJobResult × Database) :=
  match loadInstallment job.installmentId db with
  | none => .error (.error s!"Installment not found: {job.installmentId}")
  | some i =>
    if i.installment.status = .paid then
      match PaymentIntentService.findByReference job.reference db with
      | none => .ok (.alreadyProcessed, db)
      | some staleIntent =>
        match PaymentIntentService.ignoreConflict db
            (PaymentIntentService.markSuccess staleIntent.intentId now db) with
        | .error err => .error err
        | .ok db => .ok (.alreadyProcessed, db)
    else
      match PaymentIntentService.findByReference job.reference db with
      | none => .error (.error s!"PaymentIntent not found for reference={job.reference}")
      | some intent =>
        match verifyPaystack job.reference with
        | .error message => .error (.error message)
        | .ok v =>
          if v.status ≠ "success" then
            .error (.error (s!"Payment verification failed for reference={job.reference}: " ++
              s!"status={v.status}"))
          else
            match transaction i intent v job.reference paymentId commissionId now db with
            | .error err => .error err
            | .ok (result, db) => .ok (.recorded result, db)

end PaymentWorker
end InstalFlow
