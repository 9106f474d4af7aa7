import InstalFlow.Jobs.Queue
import InstalFlow.PaymentRecovery
import InstalFlow.PaymentWorker

/-!
# The charge webhook and the payment queue

`handleChargeSuccess` looks up the intent of a charge, compares installment and
amount, marks the intent PROCESSING and enqueues a payment job under the
reference of the charge. The statements of a delivery are also given one at a
time, as other deliveries and the sweeps can run between them.
-/

namespace InstalFlow
open Relational Jobs

structure ChargeMetadata where
  type : Option String := none
  installmentId : Option String := none

structure ChargeSuccessPayload where
  reference : String
  amount : ℚ
  metadata : Option ChargeMetadata := none

/-- `s.trim().toLowerCase()`. No letter outside ASCII has a lower case that the
names below contain, so those are left as they are. -/
def trimLower (s : String) : String :=
  String.ofList
    (((s.toList.dropWhile isSpace).reverse.dropWhile isSpace).reverse.map Char.toLower)

def ChargeSuccessPayload.metadataType (payload : ChargeSuccessPayload) : Option String :=
  (payload.metadata.bind ChargeMetadata.type).map trimLower

/-- `mapMetadataType` -/
def PaymentIntentType.metadataType : PaymentIntentType → String
  | .installment => "installment_payment"
  | .onboarding => "onboarding_payment"
  | .subscription => "company_subscription"

structure Backend (Q : Type) where
  db : Database
  paymentQueue : Q

/-- The other branches of the dispatch on the metadata, on the reference. -/
structure ChargeBranches (Q : Type) where
  onboarding : String → DateTime → Backend Q → Backend Q × Except AppError Unit
  companySubscription : String → DateTime → Backend Q → Backend Q × Except AppError Unit

def unknownReference (Q : Type) : ChargeBranches Q where
  onboarding _ _ s := (s, .ok ())
  companySubscription _ _ s := (s, .error (.badRequest "Payment intent not found"))

structure CheckedCharge where
  intentId : String
  data : PaymentJobData

namespace WebhookProcessor

/-- The early returns: without an installment id, an intent of the reference, the
same installment or the same amount in kobo there is nothing to enqueue. -/
def checkCharge (payload : ChargeSuccessPayload) (db : Database) : Option CheckedCharge :=
  match payload.metadata.bind ChargeMetadata.installmentId with
  | none => none
  | some webhookInstallmentId =>
    if webhookInstallmentId = "" then none
    else
      match PaymentIntentService.findByReference payload.reference db with
      | none => none
      | some intent =>
        if intent.installmentId ≠ some webhookInstallmentId then none
        else if intent.amount * 100 ≠ payload.amount then none
        else some ⟨intent.intentId, ⟨webhookInstallmentId, payload.reference⟩⟩

/-- The options of `paymentQueue.add`. -/
def paymentJob (data : PaymentJobData) : Job PaymentJobData where
  jobId := data.reference
  data := data
  attempts := 3

variable {Q : Type} (queue : Queue PaymentJobData Q)

def handleInstallmentPayment (payload : ChargeSuccessPayload) (now : DateTime) (s : Backend Q) :
    Backend Q × Except AppError Unit :=
  match checkCharge payload s.db with
  | none => (s, .ok ())
  | some charge =>
    match PaymentIntentService.markProcessing charge.intentId now s.db with
    | .error err => (s, .error err)
    | .ok db => (⟨db, queue.add s.paymentQueue (paymentJob charge.data)⟩, .ok ())

def handleChargeSuccess (branches : ChargeBranches Q) (payload : ChargeSuccessPayload)
    (now : DateTime) (s : Backend Q) : Backend Q × Except AppError Unit :=
  match payload.metadataType with
  | some "onboarding_payment" => branches.onboarding payload.reference now s
  | some "installment_payment" => handleInstallmentPayment queue payload now s
  | some "company_subscription" => branches.companySubscription payload.reference now s
  | _ => (s, .ok ())

end WebhookProcessor

namespace PaymentWorker
variable {Q : Type} (queue : Queue PaymentJobData Q)

/-- One attempt of the job with this id: a job that completes is removed, a
failing attempt rolls its transaction back. -/
def attempt (verifyPaystack : String → Except String Verification)
    (jobId paymentId commissionId : String) (now : DateTime) (s : Backend Q) : Backend Q :=
  match queue.job? s.paymentQueue jobId with
  | none => s
  | some job =>
    if job.failed then s
    else
      match process verifyPaystack job.data paymentId commissionId now s.db with
      | .error _ => { s with paymentQueue := queue.fail s.paymentQueue jobId }
      | .ok (_, db) => ⟨db, queue.complete s.paymentQueue jobId⟩

def onFailed (job : Job PaymentJobData) (now : DateTime) (db : Database) : Database :=
  if job.attemptsMade = job.attempts then
    match PaymentIntentService.findByReference job.data.reference db with
    | none => db
    | some intent => committed db id (PaymentIntentService.markFailed intent.intentId none now db)
  else db

end PaymentWorker
end InstalFlow
