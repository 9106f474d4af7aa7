import InstalFlow.InstallmentEligibility
import InstalFlow.IntentPrograms

/-!
# The flows around a payment intent

The three requests that open a payment, the charge webhook, and the jobs and the
verification that close it, as programs. A request reserves an intent, opens a
transaction at Paystack and marks the intent PENDING; an intent that is already
INITIALIZED or PENDING is answered with the link it has.
-/

namespace InstalFlow
open Relational Transition

structure PaymentLink where
  authorizationUrl : String
  accessCode : String := ""
  reference : String
  isExisting : Bool := false
  message : Option String := none
  amount : Option ℚ := none
  installmentId : Option String := none
  dueDate : Option DateTime := none

namespace PaymentLink

def ofIntent (intent : PaymentIntent) : PaymentLink where
  authorizationUrl := intent.authorizationUrl.getD ""
  reference := intent.reference.getD ""

def ofResponse (response : ProviderResponse) : PaymentLink where
  authorizationUrl := response.authorizationUrl
  accessCode := response.accessCode
  reference := response.reference

end PaymentLink

structure InstallmentForPayment where
  installment : Installment
  contract : FinancingContract
  customer : Option User
  product : Option Product

namespace InstallmentService

/-- The installment with its contract and the customer and product of the
contract's application. -/
def findForPayment (installmentId : String) (db : Database) : Option InstallmentForPayment := do
  let installment ← db.installments.find? installmentId
  let contract ← db.financingContracts.find? installment.financingContractId
  let kycApplication := db.kycApplications.find? contract.kycApplicationId
  let customer := (kycApplication.bind KycApplication.userId).bind db.users.find?
  let product := (kycApplication.map KycApplication.productId).bind db.products.find?
  return { installment, contract, customer, product }

def assertMayPay (installmentId customerId : String) (db : Database) :
    Except AppError InstallmentForPayment :=
  match findForPayment installmentId db with
  | none => .error (.notFound "Installment not found")
  | some i =>
    if i.contract.userId ≠ some customerId then
      .error (.unauthorized "You are not authorized to pay for this installment")
    else if i.installment.status = .paid then
      .error (.badRequest "This installment has already been settled")
    else if i.contract.status ≠ .active ∧ i.contract.status ≠ .defaulted then
      .error (.badRequest
        s!"Payments are not allowed for contract status: {i.contract.status.name}")
    else .ok i

def nextUnpaid (contractId : String) (db : Database) : Option NextUnpaidMarker :=
  (((db.installments.rows.filter
    (fun i => i.financingContractId = contractId ∧ i.status ≠ .paid)).insertionSort
      (fun a b => a.sequence ≤ b.sequence)).head?).map
        fun i => ⟨i.installmentId, i.sequence, i.dueDate⟩

def assertInstallmentIsPayable (installment : Installment) (now : DateTime) (db : Database) :
    Except AppError InstallmentEligibility :=
  let next := if installment.status = .paid then none
    else nextUnpaid installment.financingContractId db
  let eligibility := computeInstallmentEligibility installment next now
  if eligibility.state = .contractCompleted then
    .error (.badRequest EligibilityMessages.contractCompleted)
  else if !eligibility.canPay then
    .error (.badRequest (eligibility.reason.getD "This installment is not currently payable."))
  else .ok eligibility

def assertPayer (i : InstallmentForPayment) : Except AppError (User × Product) :=
  match i.customer.filter (fun customer => customer.email ≠ "") with
  | none => .error (.badRequest "No customer with a valid email is linked to this contract")
  | some customer =>
    match i.product with
    | none => .error (.badRequest "No product is linked to this contract")
    | some product => .ok (customer, product)

end InstallmentService

namespace SubscriptionService

/-- `discountPrice` if it is there and positive. -/
def chargedPrice (plan : SubscriptionPlan) : ℚ :=
  (plan.discountPrice.filter (fun price => 0 < price)).getD plan.price

/-- The row of a subscription, under the partial index that a company has one
PENDING subscription. -/
def createPendingSubscription (subscriptionId companyId planId : String) (now : DateTime)
    (db : Database) : Database :=
  if db.companySubscriptions.rows.any (fun s => s.companyId = companyId ∧ s.status = .pending) then db
  else { db with companySubscriptions := (db.companySubscriptions.create
    { subscriptionId, companyId, planId, createdAt := now }).getD db.companySubscriptions }

theorem createPendingSubscription_paymentIntents (subscriptionId companyId planId : String)
    (now : DateTime) (db : Database) :
    (createPendingSubscription subscriptionId companyId planId now db).paymentIntents =
      db.paymentIntents := by
  rw [createPendingSubscription]
  split <;> rfl

def findOnboarding (intentId : String) (db : Database) :
    Except AppError (OnboardingIntent × SubscriptionPlan) :=
  match db.onboardingIntents.find? intentId with
  | none => .error (.notFound "Onboarding intent not found")
  | some onboardingIntent =>
    match db.subscriptionPlans.find? onboardingIntent.planId with
    | none => .error (.notFound "Plan not found")
    | some plan => .ok (onboardingIntent, plan)

end SubscriptionService

namespace PaymentWorker

/-- The verification of the charge in front of the transaction. -/
def verify (verifyPaystack : String → Except String Verification) (reference : String) :
    Except AppError Verification :=
  match verifyPaystack reference with
  | .error message => .error (.error message)
  | .ok v =>
    if v.status ≠ "success" then
      .error (.error
        s!"Payment verification failed for reference={reference}: status={v.status}")
    else .ok v

end PaymentWorker

namespace PaymentInitStatus

/-- The statuses whose link is handed out again. -/
def hasLink (status : PaymentInitStatus) : Bool := status = .initialized ∨ status = .pending

end PaymentInitStatus

namespace IntentProgram

/-- A statement that writes other tables only, under the check that it does not fail. -/
def sendElsewhere (f : Database → Database)
    (hf : ∀ db, (f db).paymentIntents = db.paymentIntents)
    (check : Database → Except AppError Unit) : IntentProgram Unit :=
  send (.elsewhere f hf) fun _ db => check db

/-- `initializePaystack` and `markPending`, one after the other. -/
def openTransaction (intentId : String) : IntentProgram ProviderResponse := do
  let response ← initializePaystack intentId true
  discard (transitionStatus intentId .pending)
  return response

def initializeInstallmentPayment (installmentId customerId : String) :
    IntentProgram PaymentLink := do
  let i ← select fun _ db => InstallmentService.assertMayPay installmentId customerId db
  discard (select fun m db => InstallmentService.assertInstallmentIsPayable i.installment m.now db)
  let (customer, product) ← lift (InstallmentService.assertPayer i)
  let reservation ← reserve
    { type := .installment, amount := i.installment.amount, customerId := customer.userId
      installmentId := i.installment.installmentId, planId := product.productId
      initializationPayload := { email := customer.email } }
  let intent := reservation.intent
  if reservation.isExisting then
    if intent.status.hasLink then
      return { PaymentLink.ofIntent intent with
        isExisting := true
        message := some "You have an active pending payment. Please complete it first." }
    else
      throw (.badRequest s!"Payment intent is in {intent.status.name} state, cannot re-initialize")
  else
    let response ← openTransaction intent.intentId
    return { PaymentLink.ofResponse response with
      amount := some i.installment.amount
      installmentId := some i.installment.installmentId
      dueDate := some i.installment.dueDate }

def recordOnboardingReference (intentId reference : String) : IntentProgram Unit :=
  sendElsewhere
    (fun db =>
      { db with
        onboardingIntents := db.onboardingIntents.update intentId (fun i =>
          { i with paymentReference := some reference, status := .paymentInitialized }) })
    (fun _ => rfl)
    (fun db => (updateRow db.onboardingIntents intentId id (fun _ => rfl)).map fun _ => ())

def initializeOnboardingPayment (intentId : String) : IntentProgram PaymentLink := do
  let (onboardingIntent, plan) ← select fun _ db => SubscriptionService.findOnboarding intentId db
  let reservation ← reserve
    { type := .onboarding, amount := SubscriptionService.chargedPrice plan
      onboardingId := intentId, planId := onboardingIntent.planId
      initializationPayload := { email := onboardingIntent.email } }
  if reservation.isExisting && reservation.intent.status.hasLink then
    return PaymentLink.ofIntent reservation.intent
  let response ← openTransaction reservation.intent.intentId
  recordOnboardingReference intentId response.reference
  return PaymentLink.ofResponse response

def createPendingSubscription (companyId planId : String) : IntentProgram Unit := do
  let m ← moment
  sendElsewhere (SubscriptionService.createPendingSubscription m.uuid companyId planId m.now)
    (SubscriptionService.createPendingSubscription_paymentIntents m.uuid companyId planId m.now)
    (fun _ => .ok ())

def createPendingSubscriptionAndIntent (companyId : String) (plan : SubscriptionPlan)
    (email : String) : IntentProgram PaymentLink := do
  let reservation ← reserve
    { type := .subscription, amount := SubscriptionService.chargedPrice plan
      companyId := companyId, planId := plan.planId, initializationPayload := { email } }
  if reservation.isExisting && reservation.intent.status.hasLink then
    return PaymentLink.ofIntent reservation.intent
  if !reservation.isExisting then createPendingSubscription companyId plan.planId
  let response ← openTransaction reservation.intent.intentId
  return PaymentLink.ofResponse response

section transactions
variable {γ : Type} (locals : γ)

/-- Statements sent through the client of an open transaction, after those in
`sent`: each sees what is committed and what the transaction has written. -/
def statements (sent : List (TransactionStep Database γ AppError)) :
    List (TransactionStep Database γ AppError) → IntentProgram Unit
  | [] => return ()
  | x :: rest => do
    select fun _ db => (Transaction.steps ⟨db, db, locals⟩ (sent ++ [x])).map fun _ => ()
    statements (sent ++ [x]) rest

/-- What the commit of a transaction changes, the intents being left to `mark`. -/
def commit (body : List (TransactionStep Database γ AppError)) (db : Database) : Database :=
  { (Transaction.execute ⟨db, db, locals⟩ body).1 with paymentIntents := db.paymentIntents }

/-- A transaction that marks an intent through the global client in its middle. -/
def transaction (before : List (TransactionStep Database γ AppError)) (mark : IntentProgram Unit)
    (after : List (TransactionStep Database γ AppError)) : IntentProgram Unit := do
  statements locals [] before
  mark
  statements locals before after
  sendElsewhere (commit locals (before ++ after)) (fun _ => rfl) (fun db =>
    (Transaction.execute ⟨db, db, locals⟩ (before ++ after)).2.map fun _ => ())

end transactions

def verifySubscription (reference : String) : IntentProgram Unit := do
  match ← findByReference reference with
  | none => throw (.badRequest "Payment intent not found")
  | some intent =>
    discard (select fun m db =>
      SubscriptionService.validatePaystackTransaction m.verifyTransaction reference db)
    let m ← moment
    transaction {} (SubscriptionService.beforeMark intent m.now)
      (discard (transitionStatus intent.intentId .success))
      [SubscriptionService.postRevenue reference intent.companyId]

def markOnboardingPaid (intentId : String) : IntentProgram Unit :=
  sendElsewhere
    (fun db =>
      { db with
        onboardingIntents := db.onboardingIntents.update intentId (fun i =>
          { i with status := .paid }) })
    (fun _ => rfl) (fun _ => .ok ())

/-- The job is enqueued for a worker that runs it at any time. -/
def handleInstallmentPayment (payload : ChargeSuccessPayload) : IntentProgram Unit := do
  match ← select (fun _ db => .ok (WebhookProcessor.checkCharge payload db)) with
  | none => return ()
  | some charge => discard (transitionStatus charge.intentId .processing)

def handleChargeSuccess (payload : ChargeSuccessPayload) : IntentProgram Unit := do
  match payload.metadataType with
  | some "onboarding_payment" =>
    match ← select (fun _ db => .ok (db.onboardingIntents.rows.find?
        (fun i => i.paymentReference = some payload.reference))) with
    | none => return ()
    | some intent => if intent.status ≠ .completed then markOnboardingPaid intent.intentId
  | some "installment_payment" => handleInstallmentPayment payload
  | some "company_subscription" => verifySubscription payload.reference
  | _ => return ()

def paymentJob (job : PaymentJobData) (paymentId commissionId : String) : IntentProgram Unit := do
  match ← select (fun _ db => .ok (PaymentWorker.loadInstallment job.installmentId db)) with
  | none => throw (.error s!"Installment not found: {job.installmentId}")
  | some i =>
    let intent ← findByReference job.reference
    if i.installment.status = .paid then
      match intent with
      | none => return ()
      | some staleIntent => ignoringConflict (transitionStatus staleIntent.intentId .success)
    else
      match intent with
      | none => throw (.error s!"PaymentIntent not found for reference={job.reference}")
      | some intent =>
        let v ← select fun m _ => PaymentWorker.verify m.verifyTransaction job.reference
        let m ← moment
        let attempt : PaymentAttempt := ⟨i, v, job.reference, paymentId, commissionId, m.now⟩
        statements {} [] attempt.body
        ignoringConflict (transitionStatus intent.intentId .success)
        send (.collect attempt) fun _ db => (attempt.collect db).map fun _ => ()

def onboardingJob (job : OnboardingJobData) (ids : OnboardingIds) : IntentProgram Unit := do
  match ← select (fun m db => OnboardingWorker.checkJob m.verifyTransaction job db) with
  | .alreadyProcessed => return ()
  | .paid intent paymentIntent =>
    let m ← moment
    transaction {} (OnboardingWorker.beforeMark intent ids job.reference m.now)
      (ignoringConflict (transitionStatus paymentIntent.intentId .success)) []

/-- The `failed` listener of both workers after the last attempt. -/
def finalFailure (reference : String) : IntentProgram Unit := do
  match ← findByReference reference with
  | none => return ()
  | some intent => discard (transitionStatus intent.intentId (.failed none))

end IntentProgram
end InstalFlow
