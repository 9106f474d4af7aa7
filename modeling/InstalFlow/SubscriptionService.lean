import InstalFlow.Calendar
import InstalFlow.PaymentWorker
import InstalFlow.Relational.Transaction

/-!
# Subscription payments

`verifySubscription` verifies the charge of a subscription with Paystack and
activates the pending subscription of the company in one transaction. The
transition of the payment intent is sent from inside that transaction through
the global client, before the posting to the ledger.
-/

namespace InstalFlow
open Relational

/-- `update` of one row, which fails when there is none. -/
def updateRow {κ ρ : Type} [DecidableEq κ] {key : ρ → κ} (t : Table key) (k : κ) (f : ρ → ρ)
    (hf : ∀ r, key (f r) = key r) : Except AppError (Table key) :=
  if (t.find? k).isSome then .ok (t.update k f hf)
  else .error (.error "No record was found for an update.")

theorem updateRow_eq_ok {κ ρ : Type} [DecidableEq κ] {key : ρ → κ} {t u : Table key} {k : κ}
    {f : ρ → ρ} {hf : ∀ r, key (f r) = key r} :
    updateRow t k f hf = .ok u ↔ (t.find? k).isSome ∧ u = t.update k f hf := by
  rw [updateRow]
  split
  · rename_i hsome
    simp [hsome, eq_comm]
  · rename_i hnone
    simp [hnone]

/-- The second statement of a transition, `findUniqueOrThrow`. -/
def rereadIntent (intentId : String) (db : Database) : Except AppError Database :=
  match db.paymentIntents.find? intentId with
  | none => .error (.error "No PaymentIntent found")
  | some _ => .ok db

namespace SubscriptionService

def periodEnd (interval : SubscriptionInterval) (start : DateTime) : DateTime :=
  match interval with
  | .weekly => DateTime.addDays start 7
  | .monthly => DateTime.addMonths start 1
  | .yearly => DateTime.addMonths start 12

def validatePaystackTransaction (verifyPaystack : String → Except String Verification)
    (reference : String) (db : Database) : Except AppError Verification :=
  match PaymentIntentService.findByReference reference db with
  | none => .error (.badRequest "Payment intent not found for reference")
  | some _ =>
    match verifyPaystack reference with
    | .error message => .error (.error message)
    | .ok verification =>
      if verification.status ≠ "success" then
        .error (.badRequest "Payment verification failed or incomplete")
      else .ok verification

/-- The local variables of the transaction. -/
structure Activation where
  plan : Option SubscriptionPlan := none
  pendingSubscription : Option CompanySubscription := none

abbrev Step := TransactionStep Database Activation AppError

def findPlan (planId : Option String) : Step :=
  .inside fun locals db =>
    match planId.bind db.subscriptionPlans.find? with
    | none => .error (.error "Plan vanished")
    | some plan => .ok ({ locals with plan }, db)

def findPendingSubscription (companyId : Option String) : Step :=
  .inside fun locals db =>
    match db.companySubscriptions.rows.find?
        (fun s => some s.companyId = companyId ∧ s.status = .pending) with
    | none => .error (.badRequest "No pending subscription found for this company")
    | some pendingSubscription => .ok ({ locals with pendingSubscription }, db)

def expireOthers (companyId : Option String) : Step :=
  .inside fun locals db =>
    let companySubscriptions := db.companySubscriptions.updateMany
      (fun s => some s.companyId = companyId ∧
        some s.subscriptionId ≠ locals.pendingSubscription.map CompanySubscription.subscriptionId ∧
        s.status ≠ .expired)
      (fun s => { s with status := .expired })
    .ok (locals, { db with companySubscriptions })

def activate (now : DateTime) : Step :=
  .inside fun locals db =>
    let endDate := (locals.plan.map SubscriptionPlan.interval).map (periodEnd · now)
    match updateRow db.companySubscriptions
        ((locals.pendingSubscription.map CompanySubscription.subscriptionId).getD "")
        (fun s => { s with status := .active, startDate := some now, endDate }) (fun _ => rfl) with
    | .error err => .error err
    | .ok companySubscriptions => .ok (locals, { db with companySubscriptions })

def setCompanyPlan (companyId : Option String) : Step :=
  .inside fun locals db =>
    match updateRow db.companies (companyId.getD "")
        (fun c => { c with plan := (locals.plan.map SubscriptionPlan.name).getD c.plan })
        (fun _ => rfl) with
    | .error err => .error err
    | .ok companies => .ok (locals, { db with companies })

/-- `plan.discountPrice ?? plan.price` -/
def bookedPrice (plan : SubscriptionPlan) : ℚ := plan.discountPrice.getD plan.price

def revenuePosting (reference description : String) (companyId : Option String) (price : ℚ) :
    LedgerTransaction where
  reference := reference
  description := description
  companyId := companyId
  entries :=
    [{ accountName := "PAYSTACK_CLEARING", accountType := .asset, debit := price },
     { accountName := "PLATFORM_REVENUE", accountType := .revenue, credit := price }]

def postRevenue (reference : String) (companyId : Option String) : Step :=
  .inside fun locals db =>
    let name := (locals.plan.map SubscriptionPlan.name).getD ""
    match post (revenuePosting reference ("Subscription Payment: " ++ name) companyId
        ((locals.plan.map bookedPrice).getD 0)) db with
    | .error err => .error err
    | .ok db => .ok (locals, db)

def beforeMark (intent : PaymentIntent) (now : DateTime) : List Step :=
  [findPlan intent.planId, findPendingSubscription intent.companyId, expireOthers intent.companyId,
    activate now, setCompanyPlan intent.companyId]

def afterMark (intent : PaymentIntent) (reference : String) : List Step :=
  [.inside fun locals db => (rereadIntent intent.intentId db).map (locals, ·),
    postRevenue reference intent.companyId]

def transaction (intent : PaymentIntent) (reference : String) (now : DateTime) : List Step :=
  beforeMark intent now ++
    .outside (PaymentIntentService.markSuccess intent.intentId now) :: afterMark intent reference

/-- The reads in front of the transaction. -/
def checkIntent (verifyPaystack : String → Except String Verification) (reference : String)
    (db : Database) : Except AppError PaymentIntent :=
  match PaymentIntentService.findByReference reference db with
  | none => .error (.badRequest "Payment intent not found")
  | some intent =>
    match validatePaystackTransaction verifyPaystack reference db with
    | .error err => .error err
    | .ok _ => .ok intent

def verifySubscription (verifyPaystack : String → Except String Verification)
    (reference : String) (now : DateTime) (db : Database) : Database × Except AppError Activation :=
  match checkIntent verifyPaystack reference db with
  | .error err => (db, .error err)
  | .ok intent => Transaction.execute ⟨db, db, {}⟩ (transaction intent reference now)

end SubscriptionService
end InstalFlow
