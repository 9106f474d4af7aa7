import InstalFlow.InstallmentFlows
import InstalFlow.Transition.Trace

/-!
# Subscriptions as programs

The requests for a subscription, its verification and the renewal worker, as
programs of single statements. The transaction of a verification reads committed
rows statement by statement; the rows that its updates have matched are locked
until it commits, so what they write is written at the commit.
-/

namespace InstalFlow
open Relational Transition

/-- What the statements of a verification have found and matched. -/
structure VerifiedPayment where
  reference : String
  intent : PaymentIntent
  plan : SubscriptionPlan
  pendingSubscription : CompanySubscription
  others : List String
  now : DateTime

inductive SubscriptionWrite
  | intent (w : IntentWrite)
  | transitionTo (subscriptionId : String) (status : SubscriptionStatus)
  | activate (v : VerifiedPayment)

namespace SubscriptionService

def findActivePlan (planId : String) (db : Database) : Except AppError SubscriptionPlan :=
  match (db.subscriptionPlans.find? planId).filter SubscriptionPlan.active with
  | none => .error (.notFound "Subscription plan not found or inactive")
  | some plan => .ok plan

def findOwner (companyId : String) (db : Database) : Except AppError User :=
  match db.users.rows.find? (fun u => u.companyId = some companyId ∧ u.role = .company) with
  | none => .error (.notFound "Company owner not found for this company.")
  | some owner => .ok owner

/-- The most recent subscription of the company. -/
def latest (companyId : String) (db : Database) : Option CompanySubscription :=
  ((db.companySubscriptions.rows.filter (fun s => s.companyId = companyId)).insertionSort
    (fun s t => t.createdAt ≤ s.createdAt)).head?

def targetPlan (companyId : String) (planId : Option String) (db : Database) :
    Except AppError String :=
  match planId.filter (fun id => id ≠ "") with
  | some planId => .ok planId
  | none =>
    match latest companyId db with
    | none => .error (.badRequest
        "No existing subscription found — use initializeSubscription instead.")
    | some currentSubscription => .ok currentSubscription.planId

def findPlanOf (intent : PaymentIntent) (db : Database) : Except AppError SubscriptionPlan :=
  match intent.planId.bind db.subscriptionPlans.find? with
  | none => .error (.error "Plan vanished")
  | some plan => .ok plan

def pendingOf (companyId : Option String) (db : Database) : Option CompanySubscription :=
  db.companySubscriptions.rows.find? (fun s => some s.companyId = companyId ∧ s.status = .pending)

def findPending (companyId : Option String) (db : Database) :
    Except AppError CompanySubscription :=
  match pendingOf companyId db with
  | none => .error (.badRequest "No pending subscription found for this company")
  | some pendingSubscription => .ok pendingSubscription

theorem findPending_eq_ok {companyId : Option String} {db : Database} {s : CompanySubscription}
    (h : findPending companyId db = .ok s) :
    s ∈ db.companySubscriptions.rows ∧ some s.companyId = companyId ∧ s.status = .pending := by
  rw [findPending] at h
  split at h
  · cases h
  · rename_i hfind
    cases h
    have hmatch := List.find?_some hfind
    simp only [decide_eq_true_eq] at hmatch
    exact ⟨List.mem_of_find?_eq_some hfind, hmatch⟩

/-- The rows that the update in front of the activation matches. -/
def othersOf (companyId : Option String) (subscriptionId : String) (db : Database) : List String :=
  (db.companySubscriptions.rows.filter (fun s => some s.companyId = companyId ∧
    s.subscriptionId ≠ subscriptionId ∧ s.status ≠ .expired)).map CompanySubscription.subscriptionId

def expiredSubscription (s : CompanySubscription) : CompanySubscription :=
  { s with status := .expired }

def activatedSubscription (plan : SubscriptionPlan) (now : DateTime) (s : CompanySubscription) :
    CompanySubscription :=
  { s with
    status := .active
    startDate := some now
    endDate := some (periodEnd plan.interval now) }

end SubscriptionService

namespace VerifiedPayment
open SubscriptionService

def posting (v : VerifiedPayment) : LedgerTransaction :=
  revenuePosting v.reference ("Subscription Payment: " ++ v.plan.name) v.intent.companyId
    (bookedPrice v.plan)

def commit (v : VerifiedPayment) (db : Database) : Except AppError Database := do
  let companySubscriptions := db.companySubscriptions.updateMany
    (fun s => s.subscriptionId ∈ v.others) expiredSubscription (fun _ => rfl)
  let companySubscriptions ← updateRow companySubscriptions v.pendingSubscription.subscriptionId
    (activatedSubscription v.plan v.now) (fun _ => rfl)
  let companies ← updateRow db.companies (v.intent.companyId.getD "")
    (fun c => { c with plan := v.plan.name }) (fun _ => rfl)
  post v.posting { db with companySubscriptions, companies }

end VerifiedPayment

def CompanySubscription.withStatus (status : SubscriptionStatus) (s : CompanySubscription) :
    CompanySubscription :=
  { s with status }

def SubscriptionWrite.execute (m : Moment) (db : Database) : SubscriptionWrite → Database
  | intent w => w.execute m db
  | transitionTo subscriptionId status =>
      { db with
        companySubscriptions := db.companySubscriptions.update subscriptionId
          (CompanySubscription.withStatus status) (fun _ => rfl) }
  | activate v => committed db id (v.commit db)

namespace IntentProgram

def initializeSubscription (companyId planId email : String) : IntentProgram PaymentLink := do
  let plan ← select fun _ db => SubscriptionService.findActivePlan planId db
  createPendingSubscriptionAndIntent companyId plan email

def renewSubscription (companyId : String) (planId : Option String) :
    IntentProgram PaymentLink := do
  let owner ← select fun _ db => SubscriptionService.findOwner companyId db
  let targetPlanId ← select fun _ db => SubscriptionService.targetPlan companyId planId db
  let plan ← select fun _ db => SubscriptionService.findActivePlan targetPlanId db
  createPendingSubscriptionAndIntent companyId plan owner.email

end IntentProgram

abbrev SubscriptionProgram (α : Type) : Type :=
  ExceptT AppError (Program Database SubscriptionWrite Moment) α

namespace SubscriptionProgram
open SubscriptionService

def select {α : Type} (f : Moment → Database → Except AppError α) : SubscriptionProgram α :=
  ExceptT.mk (.read fun m db => .done (f m db))

def send {α : Type} (w : SubscriptionWrite) (f : Moment → Database → Except AppError α) :
    SubscriptionProgram α :=
  ExceptT.mk (.write w fun m db => .done (f m db))

/-- The statements of an operation on intents. -/
def ofIntent {α : Type} (p : IntentProgram α) : SubscriptionProgram α :=
  ExceptT.mk (p.run.embed id .intent)

def verifySubscription (reference : String) : SubscriptionProgram Unit := do
  let intent ← select fun _ db =>
    match PaymentIntentService.findByReference reference db with
    | none => .error (.badRequest "Payment intent not found")
    | some intent => .ok intent
  discard (select fun m db => validatePaystackTransaction m.verifyTransaction reference db)
  let plan ← select fun _ db => findPlanOf intent db
  let pendingSubscription ← select fun _ db => findPending intent.companyId db
  let now ← select fun m _ => .ok m.now
  let others ← select fun _ db =>
    .ok (othersOf intent.companyId pendingSubscription.subscriptionId db)
  discard (select fun _ db => updateRow db.companySubscriptions pendingSubscription.subscriptionId
    (activatedSubscription plan now) (fun _ => rfl))
  discard (select fun _ db => updateRow db.companies (intent.companyId.getD "")
    (fun c => { c with plan := plan.name }) (fun _ => rfl))
  discard (ofIntent (IntentProgram.transitionStatus intent.intentId .success))
  let v : VerifiedPayment := { reference, intent, plan, pendingSubscription, others, now }
  discard (select fun _ db => post v.posting db)
  send (.activate v) fun _ db => (v.commit db).map fun _ => ()

def transitionTo (subscriptionId : String) (status : SubscriptionStatus) :
    SubscriptionProgram Unit :=
  send (.transitionTo subscriptionId status) fun _ db =>
    (updateRow db.companySubscriptions subscriptionId (CompanySubscription.withStatus status)
      (fun _ => rfl)).map fun _ => ()

end SubscriptionProgram

namespace SubscriptionRenewalWorker
open SubscriptionProgram

def lapsed (now : DateTime) (s : CompanySubscription) : Bool :=
  s.status = .active ∧ s.endDate.any (fun endDate => endDate < now)

/-- The grace period of the plan has elapsed. -/
def graceElapsed (now : DateTime) (db : Database) (s : CompanySubscription) : Bool :=
  s.endDate.any fun endDate => (db.subscriptionPlans.find? s.planId).any fun plan =>
    endDate.addDays plan.gracePeriodDays ≤ now

def processGracePeriodTransition : SubscriptionProgram Unit := do
  let now ← select fun m _ => .ok m.now
  let subs ← select fun _ db => .ok (db.companySubscriptions.rows.filter (lapsed now))
  subs.forM fun sub => transitionTo sub.subscriptionId .gracePeriod

/-- The plans are loaded behind the subscriptions. -/
def processRestrictedTransition : SubscriptionProgram Unit := do
  let now ← select fun m _ => .ok m.now
  let subs ← select fun _ db =>
    .ok (db.companySubscriptions.rows.filter (fun s => s.status = .gracePeriod))
  let due ← select fun _ db => .ok (subs.filter (graceElapsed now db))
  due.forM fun sub => transitionTo sub.subscriptionId .restricted

end SubscriptionRenewalWorker

inductive SubscriptionOperation
  | verifySubscription (reference : String)
  | initializeSubscription (companyId planId email : String)
  | renewSubscription (companyId : String) (planId : Option String)
  | processGracePeriodTransition
  | processRestrictedTransition
  | transitionIntent (intentId : String) (t : IntentTransition)
  | cancelIntent (intentId : String) (reason : Option String)
  | expireStale
  | runRecovery

namespace SubscriptionOperation
open SubscriptionProgram

def program : SubscriptionOperation → SubscriptionProgram Unit
  | verifySubscription reference => SubscriptionProgram.verifySubscription reference
  | initializeSubscription companyId planId email =>
      ofIntent (discard (IntentProgram.initializeSubscription companyId planId email))
  | renewSubscription companyId planId =>
      ofIntent (discard (IntentProgram.renewSubscription companyId planId))
  | processGracePeriodTransition => SubscriptionRenewalWorker.processGracePeriodTransition
  | processRestrictedTransition => SubscriptionRenewalWorker.processRestrictedTransition
  | transitionIntent intentId t => ofIntent (discard (IntentProgram.transitionStatus intentId t))
  | cancelIntent intentId reason => ofIntent (discard (IntentProgram.cancel intentId reason))
  | expireStale => ofIntent (discard IntentProgram.expireStale)
  | runRecovery => ofIntent IntentProgram.runRecovery

end SubscriptionOperation

/-- The statements about subscriptions and their intents. -/
def IntentWrite.Subscribes : IntentWrite → Prop
  | create intent => intent.reference = none
  | collect _ => False
  | elsewhere f _ => ∃ subscriptionId companyId planId now,
      f = SubscriptionService.createPendingSubscription subscriptionId companyId planId now
  | _ => True

def SubscriptionWrite.Subscribes : SubscriptionWrite → Prop
  | intent w => w.Subscribes
  | transitionTo _ status => status = .gracePeriod ∨ status = .restricted
  | activate _ => True

section programs
variable {α β : Type} {A : SubscriptionWrite → Prop}

theorem onIntents_subscribes : IntentWrite.OnIntents IntentWrite.Subscribes where
  create _ h := h
  transition _ _ := trivial
  recordRecoveryFailure _ _ := trivial
  expireStale _ := trivial
  claim _ := trivial

namespace IntentProgram

theorem sends_createPendingSubscriptionAndIntent (companyId : String) (plan : SubscriptionPlan)
    (email : String) : Program.Sends IntentWrite.Subscribes
      (createPendingSubscriptionAndIntent companyId plan email).run := by
  have hopen (intentId : String) : Program.Sends IntentWrite.Subscribes
      (openTransaction intentId >>= fun response => pure (PaymentLink.ofResponse response)).run :=
    sends_bind (sends_openTransaction onIntents_subscribes intentId) fun _ => sends_pure _
  refine sends_bind (sends_reserve onIntents_subscribes _) fun reservation => ?_
  dsimp only
  split
  · exact sends_pure _
  · split
    · exact sends_bind (sends_bind (sends_select _) fun m => sends_send ⟨_, _, _, _, rfl⟩ _)
        fun _ => hopen _
    · exact hopen _

theorem sends_initializeSubscription (companyId planId email : String) :
    Program.Sends IntentWrite.Subscribes (initializeSubscription companyId planId email).run :=
  sends_bind (sends_select _) fun _ => sends_createPendingSubscriptionAndIntent _ _ _

theorem sends_renewSubscription (companyId : String) (planId : Option String) :
    Program.Sends IntentWrite.Subscribes (renewSubscription companyId planId).run :=
  sends_bind (sends_select _) fun _ => sends_bind (sends_select _) fun _ =>
    sends_bind (sends_select _) fun _ => sends_createPendingSubscriptionAndIntent _ _ _

end IntentProgram

namespace SubscriptionProgram

theorem sends_bind {p : SubscriptionProgram α} {f : α → SubscriptionProgram β}
    (hp : Program.Sends A p.run) (hf : ∀ a, Program.Sends A (f a).run) :
    Program.Sends A (p >>= f).run :=
  Program.Sends.exceptBind hp hf

theorem sends_select (f : Moment → Database → Except AppError α) :
    Program.Sends A (select f).run := fun _ _ => trivial

theorem sends_discard {p : SubscriptionProgram α} (hp : Program.Sends A p.run) :
    Program.Sends A (discard p).run :=
  Program.Sends.exceptMap _ hp

theorem sends_send {w : SubscriptionWrite} (hw : A w) (f : Moment → Database → Except AppError α) :
    Program.Sends A (send w f).run := ⟨hw, fun _ _ => trivial⟩

theorem sends_ofIntent {p : IntentProgram α} (hp : Program.Sends (fun w => A (.intent w)) p.run) :
    Program.Sends A (ofIntent p).run :=
  Program.Sends.embed hp

/-- A verification marks intents and activates. -/
theorem sends_verifySubscription (hmark : ∀ intentId, A (.intent (.transition intentId .success)))
    (hactivate : ∀ v, A (.activate v)) (reference : String) :
    Program.Sends A (verifySubscription reference).run := by
  refine sends_bind (sends_select _) fun intent => sends_bind (sends_discard (sends_select _))
    fun _ => sends_bind (sends_select _) fun plan => sends_bind (sends_select _) fun pending =>
    sends_bind (sends_select _) fun now => sends_bind (sends_select _) fun others =>
    sends_bind (sends_discard (sends_select _)) fun _ =>
    sends_bind (sends_discard (sends_select _)) fun _ => sends_bind ?_ fun _ =>
    sends_bind (sends_discard (sends_select _)) fun _ => sends_send (hactivate _) _
  exact sends_discard (sends_ofIntent
    (IntentProgram.sends_transitionStatus (A := fun w => A (.intent w)) (hmark _)))

theorem sends_forM {γ : Type} {xs : List γ} {f : γ → SubscriptionProgram Unit}
    (h : ∀ x, Program.Sends A (f x).run) : Program.Sends A (xs.forM f).run := by
  induction xs with
  | nil => trivial
  | cons x xs ih => exact sends_bind (h x) fun _ => ih

end SubscriptionProgram

/-- An operation is a verification, one of the two passes of the worker, or about intents. -/
theorem SubscriptionOperation.program_cases (operation : SubscriptionOperation) :
    (∃ reference, operation = .verifySubscription reference) ∨
    operation = .processGracePeriodTransition ∨ operation = .processRestrictedTransition ∨
    ∃ p : IntentProgram Unit, Program.Sends IntentWrite.Subscribes p.run ∧
      operation.program = SubscriptionProgram.ofIntent p := by
  have hdiscard {α : Type} {p : IntentProgram α} (hp : Program.Sends IntentWrite.Subscribes p.run)
      (heq : operation.program = SubscriptionProgram.ofIntent (discard p)) :
      ∃ p : IntentProgram Unit, Program.Sends IntentWrite.Subscribes p.run ∧
        operation.program = SubscriptionProgram.ofIntent p :=
    ⟨_, IntentProgram.sends_discard hp, heq⟩
  cases operation with
  | verifySubscription reference => exact .inl ⟨reference, rfl⟩
  | processGracePeriodTransition => exact .inr (.inl rfl)
  | processRestrictedTransition => exact .inr (.inr (.inl rfl))
  | initializeSubscription companyId planId email =>
    have hsends := IntentProgram.sends_initializeSubscription companyId planId email
    exact .inr (.inr (.inr (hdiscard hsends rfl)))
  | renewSubscription companyId planId =>
    have hsends := IntentProgram.sends_renewSubscription companyId planId
    exact .inr (.inr (.inr (hdiscard hsends rfl)))
  | transitionIntent intentId t =>
    have hsends : Program.Sends IntentWrite.Subscribes
        (IntentProgram.transitionStatus intentId t).run := IntentProgram.sends_transitionStatus trivial
    exact .inr (.inr (.inr (hdiscard hsends rfl)))
  | cancelIntent intentId reason =>
    have hsends := IntentProgram.sends_cancel onIntents_subscribes intentId reason
    exact .inr (.inr (.inr (hdiscard hsends rfl)))
  | expireStale =>
    have hsends := IntentProgram.sends_expireStale onIntents_subscribes
    exact .inr (.inr (.inr (hdiscard hsends rfl)))
  | runRecovery =>
    exact .inr (.inr (.inr ⟨_, IntentProgram.sends_runRecovery onIntents_subscribes, rfl⟩))

/-- What the operations send: only a verification activates, and it sends nothing
else but the marks of its intent. -/
theorem SubscriptionOperation.sends (operation : SubscriptionOperation)
    (hverify : ∀ reference, operation = .verifySubscription reference →
      (∀ intentId, A (.intent (.transition intentId .success))) ∧ ∀ v, A (.activate v))
    (hother : (∀ reference, operation ≠ .verifySubscription reference) →
      (∀ w, w.Subscribes → A (.intent w)) ∧
        ∀ id status, status = .gracePeriod ∨ status = .restricted → A (.transitionTo id status)) :
    Program.Sends A operation.program.run := by
  open SubscriptionProgram in
  by_cases hverifies : ∃ reference, operation = .verifySubscription reference
  · obtain ⟨reference, rfl⟩ := hverifies
    obtain ⟨hmark, hactivate⟩ := hverify reference rfl
    exact sends_verifySubscription hmark hactivate reference
  · obtain ⟨hintents, htransition⟩ := hother fun reference h => hverifies ⟨reference, h⟩
    rcases operation.program_cases with hverifying | rfl | rfl | ⟨p, hp, heq⟩
    · exact absurd hverifying hverifies
    · exact sends_bind (sends_select _) fun _ => sends_bind (sends_select _) fun _ =>
        sends_forM fun _ => sends_send (htransition _ _ (.inl rfl)) _
    · exact sends_bind (sends_select _) fun _ => sends_bind (sends_select _) fun _ =>
        sends_bind (sends_select _) fun _ => sends_forM fun _ =>
        sends_send (htransition _ _ (.inr rfl)) _
    · rw [heq]
      exact sends_ofIntent (hp.imp hintents)

end programs

section interleaving
variable {ι : Type}

abbrev SubscriptionThreads (ι : Type) : Type :=
  Config Database ι (Program Database SubscriptionWrite Moment (Except AppError Unit))

def launchSubscriptions (operations : ι → SubscriptionOperation) (db : Database) :
    SubscriptionThreads ι where
  shared := db
  threads i := (operations i).program.run

variable [DecidableEq ι]

/-- The thread named by the label executes its next statement at the moment given. -/
def performSubscription (c : SubscriptionThreads ι) (l : ι × Moment) : SubscriptionThreads ι :=
  perform SubscriptionWrite.execute c l

end interleaving
end InstalFlow
