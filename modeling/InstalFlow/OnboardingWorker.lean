import InstalFlow.SubscriptionService

/-!
# The onboarding worker

The job of a paid onboarding creates the company, its first user and an active
subscription, posts the revenue and completes the onboarding intent. A user who
exists already only completes it. The payment intent is marked last, from inside
the transaction through the global client, and a conflict is ignored.
-/

namespace InstalFlow
open Relational

structure OnboardingJobData where
  intentId : String
  reference : String

/-- The keys of the rows a job creates. -/
structure OnboardingIds where
  companyId : String
  userId : String
  subscriptionId : String

namespace OnboardingWorker

structure Locals where
  existingUser : Bool := false
  plan : Option SubscriptionPlan := none

abbrev Step := TransactionStep Database Locals AppError

def findExistingUser (email : String) : Step :=
  .inside fun locals db =>
    .ok ({ locals with existingUser := db.users.rows.any (fun u => u.email = email) }, db)

def unlessExisting (f : Locals → Database → Except AppError (Locals × Database)) : Step :=
  .inside fun locals db => if locals.existingUser then .ok (locals, db) else f locals db

def createCompany (ids : OnboardingIds) (name : String) : Step :=
  unlessExisting fun locals db =>
    match createRow db.companies { companyId := ids.companyId, name, plan := "Pending" }
        ["companyId"] with
    | .error err => .error err
    | .ok companies => .ok (locals, { db with companies })

def createUser (ids : OnboardingIds) (intent : OnboardingIntent) : Step :=
  unlessExisting fun locals db =>
    if db.users.rows.any (fun u => u.email = intent.email) then
      .error (.uniqueViolation ["email"])
    else
      match createRow db.users
          { userId := ids.userId, email := intent.email, name := some intent.adminName
            role := .company, companyId := some ids.companyId } ["userId"] with
      | .error err => .error err
      | .ok users => .ok (locals, { db with users })

/-- The lookup and the first access through `plan!`. -/
def findPlan (planId : String) : Step :=
  unlessExisting fun locals db =>
    match db.subscriptionPlans.find? planId with
    | none => .error (.error "Cannot read properties of null (reading 'interval')")
    | some plan => .ok ({ locals with plan }, db)

/-- Only a monthly plan moves the end date. -/
def periodEnd (interval : SubscriptionInterval) (start : DateTime) : DateTime :=
  match interval with
  | .monthly => DateTime.addMonths start 1
  | .weekly | .yearly => start

def createSubscription (ids : OnboardingIds) (intent : OnboardingIntent) (now : DateTime) : Step :=
  unlessExisting fun locals db =>
    let endDate := (locals.plan.map SubscriptionPlan.interval).map (periodEnd · now)
    match createRow db.companySubscriptions
        { subscriptionId := ids.subscriptionId, companyId := ids.companyId
          planId := (locals.plan.map SubscriptionPlan.planId).getD intent.planId
          status := .active, startDate := some now, endDate, createdAt := now }
        ["subscriptionId"] with
    | .error err => .error err
    | .ok companySubscriptions => .ok (locals, { db with companySubscriptions })

def setCompanyPlan (ids : OnboardingIds) : Step :=
  unlessExisting fun locals db =>
    match updateRow db.companies ids.companyId
        (fun c => { c with plan := (locals.plan.map SubscriptionPlan.name).getD c.plan })
        (fun _ => rfl) with
    | .error err => .error err
    | .ok companies => .ok (locals, { db with companies })

def postRevenue (ids : OnboardingIds) (reference : String) : Step :=
  unlessExisting fun locals db =>
    match post (SubscriptionService.revenuePosting reference "Onboarding Subscription"
        (some ids.companyId) ((locals.plan.map SubscriptionPlan.price).getD 0)) db with
    | .error err => .error err
    | .ok db => .ok (locals, db)

def completeIntent (intentId : String) : Step :=
  .inside fun locals db =>
    match updateRow db.onboardingIntents intentId (fun i => { i with status := .completed })
        (fun _ => rfl) with
    | .error err => .error err
    | .ok onboardingIntents => .ok (locals, { db with onboardingIntents })

def beforeMark (intent : OnboardingIntent) (ids : OnboardingIds) (reference : String)
    (now : DateTime) : List Step :=
  [findExistingUser intent.email, createCompany ids intent.companyName, createUser ids intent,
    findPlan intent.planId, createSubscription ids intent now, setCompanyPlan ids,
    postRevenue ids reference, completeIntent intent.intentId]

def afterMark (paymentIntentId : String) : List Step :=
  [.inside fun locals db => (rereadIntent paymentIntentId db).map (locals, ·)]

def markPaymentIntentSuccess (paymentIntentId : String) (now : DateTime) (db : Database) :
    Except AppError Database :=
  PaymentIntentService.ignoreConflict db (PaymentIntentService.markSuccess paymentIntentId now db)

def transaction (intent : OnboardingIntent) (paymentIntent : PaymentIntent) (ids : OnboardingIds)
    (reference : String) (now : DateTime) : List Step :=
  beforeMark intent ids reference now ++
    .outside (markPaymentIntentSuccess paymentIntent.intentId now) ::
      afterMark paymentIntent.intentId

inductive Checked
  | alreadyProcessed
  | paid (intent : OnboardingIntent) (paymentIntent : PaymentIntent)

/-- The reads in front of the transaction. -/
def checkJob (verifyPaystack : String → Except String Verification) (job : OnboardingJobData)
    (db : Database) : Except AppError Checked :=
  match db.onboardingIntents.find? job.intentId with
  | none => .error (.error "Intent not found")
  | some intent =>
    if intent.status = .completed then .ok .alreadyProcessed
    else
      match PaymentIntentService.findByReference job.reference db with
      | none => .error (.error s!"PaymentIntent not found for reference={job.reference}")
      | some paymentIntent =>
        match SubscriptionService.validatePaystackTransaction verifyPaystack job.reference db with
        | .error err => .error err
        | .ok _ => .ok (.paid intent paymentIntent)

def process (verifyPaystack : String → Except String Verification) (job : OnboardingJobData)
    (ids : OnboardingIds) (now : DateTime) (db : Database) : Database × Except AppError Locals :=
  match checkJob verifyPaystack job db with
  | .error err => (db, .error err)
  | .ok .alreadyProcessed => (db, .ok {})
  | .ok (.paid intent paymentIntent) =>
    Transaction.execute ⟨db, db, {}⟩ (transaction intent paymentIntent ids job.reference now)

end OnboardingWorker
end InstalFlow
