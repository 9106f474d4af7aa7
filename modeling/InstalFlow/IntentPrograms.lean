import InstalFlow.ChargeWebhook
import InstalFlow.RolledBackIntents
import InstalFlow.Transition.Program

/-!
# The programs that drive a payment intent

The operations of the intent service and the flows around them, as programs of
single database statements, in the order in which the source sends them. What
the environment answers to a statement is the time, a `uuid`, the answer of
Paystack to an initialization or a verification, and the rows that another
transaction has locked.
-/

namespace InstalFlow
open Relational Transition

structure Moment where
  now : DateTime
  uuid : String := ""
  initializeTransaction : PaymentIntentService.InitializeTransaction := fun _ _ => .error "timeout"
  verifyTransaction : String → Except String Verification := fun _ => .error "timeout"
  locked : String → Bool := fun _ => false

/-- The targets of `transitionStatus`, with the columns each sets besides. -/
inductive IntentTransition
  | initialized (response : ProviderResponse)
  | pending
  | processing
  | success
  | failed (reason : Option String)
  | expired
  | cancelled (reason : Option String)

namespace IntentTransition

def target : IntentTransition → PaymentInitStatus
  | initialized _ => .initialized
  | pending => .pending
  | processing => .processing
  | success => .success
  | failed _ => .failed
  | expired => .expired
  | cancelled _ => .cancelled

def apply (intentId : String) (now : DateTime) (db : Database) :
    IntentTransition → Except AppError Database
  | initialized response => PaymentIntentService.markInitialized intentId response now db
  | pending => PaymentIntentService.markPending intentId now db
  | processing => PaymentIntentService.markProcessing intentId now db
  | success => PaymentIntentService.markSuccess intentId now db
  | failed reason => PaymentIntentService.markFailed intentId reason now db
  | expired => PaymentIntentService.markExpired intentId now db
  | cancelled reason => PaymentIntentService.cancel intentId reason now db

end IntentTransition

/-- `ACTIVE_STATUSES` -/
def PaymentInitStatus.active : PaymentInitStatus → Bool
  | .initializing | .initialized | .pending | .processing => true
  | _ => false

/-- The insertion under the unique key and the partial unique index. -/
def createIntent (intent : PaymentIntent) (db : Database) : Except AppError Database :=
  if db.paymentIntents.rows.any (fun i => i.idempotencyKey = intent.idempotencyKey) then
    .error (.uniqueViolation ["idempotencyKey"])
  else if db.paymentIntents.rows.any
      (fun i => i.reservationKey = intent.reservationKey ∧ i.status.active) then
    .error (.uniqueViolation ["reservation_key"])
  else
    match createRow db.paymentIntents intent ["intentId"] with
    | .error err => .error err
    | .ok paymentIntents => .ok { db with paymentIntents }

/-- The second statement of the recovery claim. -/
def claimedRow (now : DateTime) (i : PaymentIntent) : PaymentIntent :=
  { i with recoveryClaimedAt := some now, recoveryAttempts := i.recoveryAttempts + 1 }

theorem claimedRow_intentId (now : DateTime) (i : PaymentIntent) :
    (claimedRow now i).intentId = i.intentId := rfl

def claimIntents (intentIds : List String) (now : DateTime) (db : Database) : Database :=
  { db with
    paymentIntents := db.paymentIntents.updateMany (fun i => i.intentId ∈ intentIds)
      (claimedRow now) (claimedRow_intentId now) }

/-- What a payment job has read and chosen when it opens its transaction. -/
structure PaymentAttempt where
  loaded : LoadedInstallment
  verification : Verification
  reference : String
  paymentId : String
  commissionId : String
  now : DateTime

namespace PaymentWorker

/-- The commissions after the payment: none more when nothing is accrued, else that one. -/
def AccruesFor (i : LoadedInstallment) (paymentId : String)
    (before after : Table Commission.commissionId) : Prop :=
  (accrual i = none ∧ after = before) ∨ ∃ c, c.paymentId = some paymentId ∧
    accrual i = some (c.userId, c.amount) ∧ before.create c = some after

theorem accrueCommission_created {i : LoadedInstallment} {paymentId commissionId : String}
    {now : DateTime} {db db' : Database} {record : Option Commission}
    (h : accrueCommission i paymentId commissionId now db = .ok (record, db')) :
    ∃ commissions, db' = { db with commissions } ∧
      AccruesFor i paymentId db.commissions commissions := by
  rw [accrueCommission] at h
  split at h
  · rename_i hnone
    cases h
    exact ⟨_, rfl, .inl ⟨hnone, rfl⟩⟩
  · rename_i userId amount haccrual
    simp only at h
    split at h
    · cases h
    · rename_i commissions hcreate
      cases h
      exact ⟨commissions, rfl, .inr ⟨_, rfl, haccrual, createRow_eq_ok.mp hcreate⟩⟩

end PaymentWorker

namespace PaymentAttempt

def body (a : PaymentAttempt) : List PaymentWorker.Step :=
  PaymentWorker.beforeMark a.loaded a.now a.verification a.reference a.paymentId a.commissionId

/-- What the commit writes, the intent having been marked through the global client. -/
def collect (a : PaymentAttempt) (db : Database) : Except AppError Database :=
  (Transaction.steps ⟨db, db, {}⟩ a.body).map TransactionState.view

variable {a : PaymentAttempt} {db db' : Database}

open PaymentWorker in
theorem collect_eq_ok (h : a.collect db = .ok db') : ∃ payment payments commissions ledger,
    recordPayment a.loaded.installment a.reference (gatewayRef a.verification a.reference)
      a.paymentId db = .ok (payment, { db with payments }) ∧
    AccruesFor a.loaded payment.paymentId db.commissions commissions ∧
    LedgerService.recordTransaction (paymentPosting a.loaded a.reference) db.ledger = .ok ledger ∧
    db' = { db with
      payments, commissions, ledger
      installments := (markInstallmentPaid a.loaded.installment.installmentId a.now db).installments
      financingContracts := contractsAfter a.loaded a.now db } := by
  rw [collect] at h
  cases hsteps : Transaction.steps ⟨db, db, {}⟩ a.body with
  | error err =>
    rw [hsteps] at h
    cases h
  | ok t =>
    rw [hsteps] at h
    cases h
    obtain ⟨locals, db₁, hpayment, h⟩ := Transaction.steps_inside_eq_ok hsteps
    obtain ⟨_, db₂, hpaid, h⟩ := Transaction.steps_inside_eq_ok h
    obtain ⟨locals', db₃, haccrue, h⟩ := Transaction.steps_inside_eq_ok h
    obtain ⟨_, db₄, hpost, h⟩ := Transaction.steps_inside_eq_ok h
    obtain ⟨_, db₅, hprogress, h⟩ := Transaction.steps_inside_eq_ok h
    obtain ⟨_, db₆, hcontract, h⟩ := Transaction.steps_inside_eq_ok h
    cases h
    cases hpaid
    cases hprogress
    cases hcontract
    split at hpayment
    · cases hpayment
    · rename_i payment db₁' hrecord
      cases hpayment
      obtain ⟨payments, rfl⟩ := recordPayment_frame hrecord
      split at haccrue
      · cases haccrue
      · rename_i record db₂' hcommission
        cases haccrue
        cases hledger : post (paymentPosting a.loaded a.reference) db₃ with
        | error err =>
          rw [hledger] at hpost
          cases hpost
        | ok db₄' =>
          rw [hledger] at hpost
          cases hpost
          obtain ⟨ledger, hposted, rfl⟩ := post_eq_ok hledger
          obtain ⟨commissions, rfl, hcommissions⟩ := accrueCommission_created hcommission
          refine ⟨payment, payments, commissions, ledger, hrecord, hcommissions, hposted, ?_⟩
          rw [completion_eq]
          rfl

theorem committed_collect_paymentIntents (a : PaymentAttempt) (db : Database) :
    (committed db id (a.collect db)).paymentIntents = db.paymentIntents := by
  refine committed_rule (P := fun db' => db'.paymentIntents = db.paymentIntents) rfl ?_
  intro db' h
  obtain ⟨_, _, _, _, -, -, -, rfl⟩ := collect_eq_ok h
  rfl

end PaymentAttempt

/-- The writing statements. `elsewhere` is one that leaves the intents alone. -/
inductive IntentWrite
  | create (intent : PaymentIntent)
  | transition (intentId : String) (transition : IntentTransition)
  | recordRecoveryFailure (intentId errorMessage : String)
  | expireStale (now : DateTime)
  | claim (intentIds : List String)
  | collect (attempt : PaymentAttempt)
  | elsewhere (f : Database → Database) (hf : ∀ db, (f db).paymentIntents = db.paymentIntents)

def IntentWrite.execute (m : Moment) (db : Database) : IntentWrite → Database
  | create intent => committed db id (createIntent intent db)
  | transition intentId t => committed db id (t.apply intentId m.now db)
  | recordRecoveryFailure intentId errorMessage =>
      PaymentIntentService.recordRecoveryFailure intentId errorMessage m.now db
  | expireStale now => PaymentIntentService.expireStale now db
  | claim intentIds => claimIntents intentIds m.now db
  | collect attempt => committed db id (attempt.collect db)
  | elsewhere f _ => f db

/-- Both statements of the claim, with nothing between them. -/
theorem claimStaleIntents_eq (locked : String → Bool) (now : DateTime) (db : Database) :
    (PaymentRecoveryWorker.claimStaleIntents locked now db).2 =
      claimIntents (PaymentRecoveryWorker.claimedIds locked now db) now db := rfl

abbrev IntentProgram (α : Type) : Type :=
  ExceptT AppError (Program Database IntentWrite Moment) α

namespace IntentProgram

def select {α : Type} (f : Moment → Database → Except AppError α) : IntentProgram α :=
  ExceptT.mk (.read fun m db => .done (f m db))

def send {α : Type} (w : IntentWrite) (f : Moment → Database → Except AppError α) :
    IntentProgram α :=
  ExceptT.mk (.write w fun m db => .done (f m db))

def lift {α : Type} (result : Except AppError α) : IntentProgram α := ExceptT.mk (.done result)

def moment : IntentProgram Moment := select fun m _ => .ok m

def findIntent (intentId : String) : IntentProgram (Option PaymentIntent) :=
  select fun _ db => .ok (db.paymentIntents.find? intentId)

def findByReference (reference : String) : IntentProgram (Option PaymentIntent) :=
  select fun _ db => .ok (PaymentIntentService.findByReference reference db)

/-- The conditional `updateMany`, and the read that tells the reasons for a count
of zero apart. -/
def transitionStatus (intentId : String) (t : IntentTransition) : IntentProgram PaymentIntent := do
  let updated ← send (.transition intentId t) fun m db =>
    match t.apply intentId m.now db with
    | .ok _ => .ok true
    | .error (.uniqueViolation target) => .error (.uniqueViolation target)
    | .error _ => .ok false
  match ← findIntent intentId, updated with
  | some intent, true => return intent
  | none, true => throw (.error "No PaymentIntent found")
  | none, false => throw (.notFound "Payment intent not found")
  | some current, false => throw (.conflict
      (s!"Cannot transition intent {intentId} to {t.target.name}: " ++
        s!"already in terminal state {current.status.name}"))

def ignoringConflict (p : IntentProgram PaymentIntent) : IntentProgram Unit :=
  tryCatch (discard p) fun err =>
    match err with
    | .conflict _ => return ()
    | err => throw err

def cancel (intentId : String) (reason : Option String) : IntentProgram Bool :=
  tryCatch (do discard (transitionStatus intentId (.cancelled reason)); return true) fun err =>
    match err with
    | .notFound _ | .conflict _ => return false
    | err => throw err

def recordRecoveryFailure (intentId errorMessage : String) : IntentProgram Unit :=
  send (.recordRecoveryFailure intentId errorMessage) fun _ _ => .ok ()

/-- `findMany` and `updateMany` with the time taken before both. -/
def expireStale : IntentProgram (List PaymentIntent) := do
  let m ← moment
  let expiredIntents ← select fun _ db =>
    .ok (db.paymentIntents.rows.filter (PaymentIntentService.stale m.now))
  send (.expireStale m.now) fun _ _ => .ok ()
  return expiredIntents

end IntentProgram

structure ReserveIntentParams where
  type : PaymentIntentType
  amount : ℚ
  customerId : Option String := none
  companyId : Option String := none
  installmentId : Option String := none
  onboardingId : Option String := none
  planId : Option String := none
  clientIdempotencyKey : Option String := none
  initializationPayload : PaymentInitializationPayload

structure Reservation where
  intent : PaymentIntent
  isExisting : Bool
  message : Option String := none

namespace PaymentIntentService

def intentExpirationMs : ℤ := 10 * 60 * 1000

/-- The template prints `undefined` for an id that is not given. -/
def buildReservationKey (params : ReserveIntentParams) : String :=
  match params.type with
  | .installment => "INSTALLMENT:" ++ params.installmentId.getD "undefined"
  | .subscription => "SUBSCRIPTION:" ++ params.companyId.getD "undefined"
  | .onboarding => "ONBOARDING:" ++ params.onboardingId.getD "undefined"

def getStatusMessage : PaymentInitStatus → String
  | .initializing => "Payment initialization in progress"
  | .initialized => "Payment already initialized, complete the payment"
  | .pending => "Payment is being processed"
  | .processing => "Payment is being verified"
  | _ => "Payment intent exists"

def assertValidInitializationPayload (payload : Option PaymentInitializationPayload)
    (context : String) : Except AppError PaymentInitializationPayload :=
  match payload with
  | none => .error (.error s!"[{context}] initializationPayload is missing or not an object")
  | some payload =>
    if isBlank payload.email then
      .error (.error s!"[{context}] initializationPayload.email must be a non-empty string")
    else .ok payload

def existingReservation (intent : PaymentIntent) : Reservation where
  intent := intent
  isExisting := true
  message := some (getStatusMessage intent.status)

end PaymentIntentService

namespace IntentProgram
open PaymentIntentService

/-- The insertion, and the lookup of the active intent that kept it out. -/
def insertOrFind (params : ReserveIntentParams) (changed : IntentProgram Reservation) :
    IntentProgram Reservation := do
  let m ← moment
  let intent : PaymentIntent :=
    { intentId := m.uuid, type := params.type, amount := params.amount
      customerId := params.customerId, companyId := params.companyId
      installmentId := params.installmentId, onboardingId := params.onboardingId
      planId := params.planId, reservationKey := buildReservationKey params
      idempotencyKey := params.clientIdempotencyKey.getD m.uuid
      expiresAt := m.now + intentExpirationMs
      initializationPayload := some params.initializationPayload, updatedAt := m.now }
  let created ← send (.create intent) fun _ db =>
    match createIntent intent db with
    | .ok _ => .ok true
    | .error (.uniqueViolation ["reservation_key"]) => .ok false
    | .error err => .error err
  if created then return { intent, isExisting := false }
  match ← select (fun _ db => .ok (db.paymentIntents.rows.find?
      (fun i => i.reservationKey = buildReservationKey params ∧ i.status.active))) with
  | some existing => return existingReservation existing
  | none => changed

def reserveAttempt (params : ReserveIntentParams) (changed : IntentProgram Reservation) :
    IntentProgram Reservation := do
  let existing ← match params.clientIdempotencyKey.filter (fun key => key ≠ "") with
    | none => pure none
    | some key => select (fun _ db =>
        .ok (db.paymentIntents.rows.find? (fun i => i.idempotencyKey = key)))
  match existing with
  | some existing => return existingReservation existing
  | none => insertOrFind params changed

/-- `reserveInternal` twice at most. -/
def reserve (params : ReserveIntentParams) : IntentProgram Reservation := do
  discard (lift (assertValidInitializationPayload (some params.initializationPayload)
    "PaymentIntentService.reserve"))
  reserveAttempt params (reserveAttempt params (throw (.conflict
    "Unable to reserve payment intent because the reservation changed during processing.")))

def initializePaystack (intentId : String) (markFailedOnError : Bool) :
    IntentProgram ProviderResponse := do
  match ← findIntent intentId with
  | none => throw (.notFound "Payment intent not found")
  | some intent =>
    let payload ← lift (assertValidInitializationPayload intent.initializationPayload
      s!"PaymentIntentService.initializePaystack:{intentId}")
    tryCatch
      (do
        let response ← select fun m _ =>
          match m.initializeTransaction payload.email (intent.amount * 100) with
          | .error message => .error (.error message)
          | .ok response => .ok response
        discard (transitionStatus intentId (.initialized response))
        return response)
      (fun err => do
        if markFailedOnError then discard (transitionStatus intentId (.failed (some err.message)))
        throw err)

def claimStaleIntents : IntentProgram (List ClaimedIntent) := do
  let ids ← select fun m db => .ok (PaymentRecoveryWorker.claimedIds m.locked m.now db)
  if ids.isEmpty then return []
  send (.claim ids) fun m db =>
    .ok (((claimIntents ids m.now db).paymentIntents.rows.filter (fun i => i.intentId ∈ ids)).map
      (fun i => ⟨i.intentId, i.recoveryAttempts⟩))

def recoverIntent (claim : ClaimedIntent) : IntentProgram RecoveryResult := do
  match ← findIntent claim.intentId with
  | none => return .skipped
  | some intent =>
    let m ← moment
    if intent.status ≠ .initializing then return .skipped
    else if intent.expiresAt < m.now then
      discard (transitionStatus intent.intentId .expired)
      return .expired
    else if PaymentRecoveryWorker.maxRecoveryAttempts < claim.recoveryAttempts then
      discard (transitionStatus intent.intentId (.failed (some
        s!"Exceeded max recovery attempts ({PaymentRecoveryWorker.maxRecoveryAttempts})")))
      return .gaveUp
    else
      tryCatch
        (do
          discard (initializePaystack intent.intentId false)
          return .recovered)
        (fun err => do
          recordRecoveryFailure intent.intentId err.message
          return .retryScheduled)

/-- A sweep: what a recovery throws is logged. -/
def runRecovery : IntentProgram Unit := do
  let claimed ← claimStaleIntents
  claimed.forM fun claim => tryCatch (discard (recoverIntent claim)) fun _ => return ()
  discard expireStale

end IntentProgram
end InstalFlow
