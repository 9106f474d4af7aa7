import InstalFlow.OnboardingWorker
import InstalFlow.PaymentEffects

/-!
# Intents and rolled-back transactions

Three transactions mark a payment intent SUCCESS through the global client. A
failure up to that statement leaves the database as it was; a failure after it,
at the latest of the commit, rolls everything back but the transition.
-/

namespace InstalFlow
open Relational

namespace PaymentWorker

/-- The local variables of the transaction. -/
structure Locals where
  payment : Option Payment := none
  commissionRecord : Option Commission := none
  percentagePaid : ℚ := 0
  nextPending : Option Installment := none

abbrev Step := TransactionStep Database Locals AppError

section steps
variable (i : LoadedInstallment) (now : DateTime)

def paymentStep (v : Verification) (reference paymentId : String) : Step :=
  .inside fun locals db =>
    match recordPayment i.installment reference (gatewayRef v reference) paymentId db with
    | .error err => .error err
    | .ok (payment, db) => .ok ({ locals with payment }, db)

def installmentStep : Step :=
  .inside fun locals db => .ok (locals, markInstallmentPaid i.installment.installmentId now db)

def commissionStep (commissionId : String) : Step :=
  .inside fun locals db =>
    match accrueCommission i ((locals.payment.map Payment.paymentId).getD "") commissionId now db with
    | .error err => .error err
    | .ok (commissionRecord, db) => .ok ({ locals with commissionRecord }, db)

def ledgerStep (reference : String) : Step :=
  .inside fun locals db => (post (paymentPosting i reference) db).map (locals, ·)

def progressStep : Step :=
  .inside fun locals db =>
    .ok ({ locals with
      percentagePaid := percentagePaid i.contract.contractId db
      nextPending := nextPending i.contract.contractId db }, db)

def contractStep : Step :=
  .inside fun locals db =>
    .ok (locals, if locals.nextPending.isNone then completeContract i.contract.contractId now db
      else db)

def beforeMark (v : Verification) (reference paymentId commissionId : String) : List Step :=
  [paymentStep i v reference paymentId, installmentStep i now, commissionStep i now commissionId,
    ledgerStep i reference, progressStep i, contractStep i now]

def markIntentSuccess (intentId : String) (db : Database) : Except AppError Database :=
  PaymentIntentService.ignoreConflict db (PaymentIntentService.markSuccess intentId now db)

def afterMark (intentId : String) : List Step :=
  [.inside fun locals db => (rereadIntent intentId db).map (locals, ·)]

/-- The transaction of a job, statement by statement. -/
def statements (intent : PaymentIntent) (v : Verification)
    (reference paymentId commissionId : String) : List Step :=
  beforeMark i now v reference paymentId commissionId ++
    .outside (markIntentSuccess now intent.intentId) :: afterMark intent.intentId

end steps

/-- What a job reads before its transaction, unless the installment is paid. -/
def checkJob (verifyPaystack : String → Except String Verification) (job : PaymentJobData)
    (db : Database) : Option (LoadedInstallment × PaymentIntent × Verification) :=
  match loadInstallment job.installmentId db,
      PaymentIntentService.findByReference job.reference db, verifyPaystack job.reference with
  | some i, some intent, .ok v =>
    if i.installment.status ≠ .paid ∧ v.status = "success" then some (i, intent, v) else none
  | _, _, _ => none

section refinement
variable {i : LoadedInstallment} {now : DateTime} {intent : PaymentIntent} {v : Verification}
  {reference paymentId commissionId : String} {db db' : Database} {result : PaymentResult}

theorem markIntentSuccess_isOk (now : DateTime)
    (h : db.paymentIntents.find? intent.intentId = some intent) :
    ∃ c, markIntentSuccess now intent.intentId db = .ok c := by
  rw [markIntentSuccess, PaymentIntentService.markSuccess, PaymentIntentService.transitionStatus, h]
  cases hterminal : intent.status.terminal with
  | true => exact ⟨db, by simp [hterminal, PaymentIntentService.ignoreConflict]⟩
  | false => simp [hterminal, PaymentIntentService.ignoreConflict]

theorem rereadIntent_markedSuccess (now : DateTime)
    (h : db.paymentIntents.find? intent.intentId = some intent)
    (hmark : PaymentIntentService.ignoreConflict db
      (PaymentIntentService.markSuccess intent.intentId now db) = .ok db') :
    rereadIntent intent.intentId db' = .ok db' := by
  rw [rereadIntent, PaymentIntentService.ignoreConflict_markSuccess hmark]
  simp only
  rw [Table.find?_updateMany, h]
  rfl

/-- Without a failure from outside the statements do what `transaction` does. -/
theorem execute_statements (hstored : db.paymentIntents.find? intent.intentId = some intent)
    (h : transaction i intent v reference paymentId commissionId now db = .ok (result, db')) :
    (Transaction.execute ⟨db, db, {}⟩
      (statements i now intent v reference paymentId commissionId)).1 = db' := by
  obtain ⟨⟨payment, db₁⟩, hpayment, h⟩ := bind_eq_ok.mp h
  obtain ⟨⟨record, db₂⟩, haccrue, h⟩ := bind_eq_ok.mp h
  obtain ⟨db₃, hpost, h⟩ := bind_eq_ok.mp h
  obtain ⟨db₄, hintent, h⟩ := bind_eq_ok.mp h
  cases h
  obtain ⟨c, hc⟩ := markIntentSuccess_isOk now hstored
  rw [markIntentSuccess] at hc
  obtain ⟨payments, hdb₁⟩ := recordPayment_frame hpayment
  obtain ⟨commissions, hdb₂⟩ := accrueCommission_frame haccrue
  obtain ⟨ledger, -, hdb₃⟩ := post_eq_ok hpost
  have hlast : (if (nextPending i.contract.contractId db₃).isNone then
      completeContract i.contract.contractId now db₃ else db₃).paymentIntents =
        db.paymentIntents := by
    rw [completion_eq, hdb₃, hdb₂, hdb₁]
    rfl
  have hreread := rereadIntent_markedSuccess now (by rw [hlast]; exact hstored) hintent
  simp only [statements, beforeMark, paymentStep, installmentStep, commissionStep, ledgerStep,
    progressStep, contractStep, afterMark, List.cons_append, List.nil_append, Transaction.execute,
    Transaction.step, hpayment, haccrue, hpost, hc, Option.map_some, Option.getD_some, Except.map,
    markIntentSuccess, hintent, Except.toOption, hreread]

end refinement

end PaymentWorker

/-- The calls that mark an intent from inside a transaction. -/
inductive MarkingCall
  | verifySubscription (reference : String)
  | paymentJob (job : PaymentJobData) (paymentId commissionId : String)
  | onboardingJob (job : OnboardingJobData) (ids : OnboardingIds)

namespace MarkingCall
variable (verifyPaystack : String → Except String Verification) (now : DateTime)

/-- The call fails at the statement number `k` of its transaction, or at its
commit, and the transaction is rolled back: the intent it has read, and what is left. -/
def rollback (k : ℕ) (db : Database) : MarkingCall → Option (PaymentIntent × Database)
  | verifySubscription reference =>
    match SubscriptionService.checkIntent verifyPaystack reference db with
    | .error _ => none
    | .ok intent => (Transaction.failedAt (SubscriptionService.transaction intent reference now)
        {} k db).map (intent, ·)
  | paymentJob job paymentId commissionId =>
    match PaymentWorker.checkJob verifyPaystack job db with
    | none => none
    | some (i, intent, v) => (Transaction.failedAt (PaymentWorker.statements i now intent v
        job.reference paymentId commissionId) {} k db).map (intent, ·)
  | onboardingJob job ids =>
    match OnboardingWorker.checkJob verifyPaystack job db with
    | .ok (.paid intent paymentIntent) =>
      (Transaction.failedAt (OnboardingWorker.transaction intent paymentIntent ids job.reference
        now) {} k db).map (paymentIntent, ·)
    | _ => none

/-- The call with no failure from outside. -/
def outcome (db : Database) : MarkingCall → Database × Except AppError Unit
  | verifySubscription reference =>
    let (db, result) := SubscriptionService.verifySubscription verifyPaystack reference now db
    (db, result.map fun _ => ())
  | paymentJob job paymentId commissionId =>
    match PaymentWorker.process verifyPaystack job paymentId commissionId now db with
    | .error err => (db, .error err)
    | .ok (_, db) => (db, .ok ())
  | onboardingJob job ids =>
    let (db, result) := OnboardingWorker.process verifyPaystack job ids now db
    (db, result.map fun _ => ())

/-- The number of the statement that marks the intent. -/
def marksAt : MarkingCall → ℕ
  | verifySubscription _ => 5
  | paymentJob _ _ _ => 6
  | onboardingJob _ _ => 8

end MarkingCall

def intentStatus (intentId : String) (db : Database) : Option PaymentInitStatus :=
  (db.paymentIntents.find? intentId).map PaymentIntent.status

/-- The intent has the status it had, and a retry does what the call would have done. -/
def MarkingCall.Retryable (call : MarkingCall) (verifyPaystack : String → Except String Verification)
    (now : DateTime) (intentId : String) (db after : Database) : Prop :=
  intentStatus intentId after = intentStatus intentId db ∧
    call.outcome verifyPaystack now after = call.outcome verifyPaystack now db

namespace PaymentIntentService
variable {intentId : String} {now : DateTime} {db c : Database} {intent : PaymentIntent}

theorem findByReference_find? {reference : String}
    (h : findByReference reference db = some intent) :
    db.paymentIntents.find? intent.intentId = some intent :=
  Table.find?_of_mem (List.mem_of_find?_eq_some h)

theorem markSuccess_of_terminal (now : DateTime) (h : db.paymentIntents.find? intentId = some intent)
    (hterminal : intent.status.terminal = true) : ∃ message,
      markSuccess intentId now db = .error (.conflict message) := by
  rw [markSuccess, transitionStatus, h]
  simp [hterminal]

theorem markSuccess_of_active (h : db.paymentIntents.find? intentId = some intent)
    (hactive : intent.status.terminal = false) (hc : markSuccess intentId now db = .ok c) :
    intentStatus intentId c = some .success := by
  rw [markSuccess, transitionStatus, h] at hc
  simp only [hactive, Bool.false_eq_true, if_false] at hc
  cases hc
  rw [intentStatus, updateIntent]
  simp only
  rw [Table.find?_update, if_pos rfl, h]
  rfl

end PaymentIntentService

section marking
variable {γ : Type} {before after : List (TransactionStep Database γ AppError)}
  {mark : Database → Except AppError Database} {locals : γ} {k : ℕ} {db c : Database}
  {intent : PaymentIntent}

/-- What the three transactions have in common: all statements but one go
through the client of the transaction, and that one marks an active intent
SUCCESS and does nothing to a terminal one. -/
structure Marks (intent : PaymentIntent) (mark : Database → Except AppError Database)
    (db : Database) : Prop where
  stored : db.paymentIntents.find? intent.intentId = some intent
  terminal : intent.status.terminal = true → ∀ c, mark db = .ok c → c = db
  active : intent.status.terminal = false → ∀ c, mark db = .ok c →
    intentStatus intent.intentId c = some .success

theorem Marks.failedAt_iff (h : Marks intent mark db)
    (hbefore : ∀ x ∈ before, Transaction.IsInside x) (hafter : ∀ x ∈ after, Transaction.IsInside x)
    (hc : Transaction.failedAt (before ++ .outside mark :: after) locals k db = some c) :
    (c = db ↔ k ≤ before.length ∨ intent.status.terminal = true) ∧
      (intentStatus intent.intentId c = intentStatus intent.intentId db → c = db) := by
  have hleft := Transaction.failedAt_onceOutside hbefore hafter hc
  by_cases hk : k ≤ before.length
  · rw [if_pos hk] at hleft
    exact ⟨by simp [hleft, hk], fun _ => hleft⟩
  · rw [if_neg hk] at hleft
    cases hterminal : intent.status.terminal with
    | true =>
      have hcdb := h.terminal hterminal c hleft
      exact ⟨by simp [hcdb], fun _ => hcdb⟩
    | false =>
      have hsuccess := h.active hterminal c hleft
      have hbeforeStatus : intentStatus intent.intentId db = some intent.status := by
        rw [intentStatus, h.stored]
        rfl
      have hne : intentStatus intent.intentId c ≠ intentStatus intent.intentId db := by
        rw [hsuccess, hbeforeStatus, ne_eq, Option.some.injEq]
        intro hsame
        rw [← hsame] at hterminal
        cases hterminal
      refine ⟨?_, fun hsame => absurd hsame hne⟩
      simp only [hk, Bool.false_eq_true, or_self, iff_false]
      intro hcdb
      exact hne (by rw [hcdb])

theorem marks_markSuccess (now : DateTime)
    (h : db.paymentIntents.find? intent.intentId = some intent) :
    Marks intent (PaymentIntentService.markSuccess intent.intentId now) db where
  stored := h
  terminal hterminal c hc := by
    obtain ⟨message, herr⟩ := PaymentIntentService.markSuccess_of_terminal now h hterminal
    rw [herr] at hc
    cases hc
  active hactive _ hc := PaymentIntentService.markSuccess_of_active h hactive hc

theorem marks_ignoreConflict (now : DateTime)
    (h : db.paymentIntents.find? intent.intentId = some intent) :
    Marks intent (fun db => PaymentIntentService.ignoreConflict db
      (PaymentIntentService.markSuccess intent.intentId now db)) db where
  stored := h
  terminal hterminal c hc := by
    obtain ⟨message, herr⟩ := PaymentIntentService.markSuccess_of_terminal now h hterminal
    rw [herr] at hc
    cases hc
    rfl
  active hactive c hc := by
    cases hmark : PaymentIntentService.markSuccess intent.intentId now db with
    | ok c' =>
      rw [hmark] at hc
      cases hc
      exact PaymentIntentService.markSuccess_of_active h hactive hmark
    | error err =>
      rw [PaymentIntentService.markSuccess, PaymentIntentService.transitionStatus, h] at hmark
      simp [hactive] at hmark

end marking

namespace MarkingCall
variable {verifyPaystack : String → Except String Verification} {now : DateTime} {k : ℕ}
  {db c : Database} {intent : PaymentIntent}

theorem checkIntent_find? {reference : String}
    (h : SubscriptionService.checkIntent verifyPaystack reference db = .ok intent) :
    db.paymentIntents.find? intent.intentId = some intent := by
  rw [SubscriptionService.checkIntent] at h
  split at h
  · cases h
  · rename_i found hfound
    split at h
    · cases h
    · cases h
      exact PaymentIntentService.findByReference_find? hfound

theorem paymentCheck_find? {job : PaymentJobData} {i : LoadedInstallment} {v : Verification}
    (h : PaymentWorker.checkJob verifyPaystack job db = some (i, intent, v)) :
    db.paymentIntents.find? intent.intentId = some intent := by
  rw [PaymentWorker.checkJob] at h
  split at h
  · rename_i hfound _
    split at h
    · cases h
      exact PaymentIntentService.findByReference_find? hfound
    · cases h
  · cases h

theorem onboardingCheck_find? {job : OnboardingJobData} {onboarding : OnboardingIntent}
    (h : OnboardingWorker.checkJob verifyPaystack job db = .ok (.paid onboarding intent)) :
    db.paymentIntents.find? intent.intentId = some intent := by
  rw [OnboardingWorker.checkJob] at h
  split at h
  · cases h
  · split at h
    · cases h
    · split at h
      · cases h
      · rename_i hfound
        split at h
        · cases h
        · cases h
          exact PaymentIntentService.findByReference_find? hfound

theorem isInside_of_forall {γ : Type} {body : List (TransactionStep Database γ AppError)}
    (h : body.Forall Transaction.IsInside) : ∀ x ∈ body, Transaction.IsInside x :=
  List.forall_iff_forall_mem.mp h

/-- What is left of a call that has failed, whichever of the three it is. -/
theorem rollback_spec {call : MarkingCall}
    (h : call.rollback verifyPaystack now k db = some (intent, c)) :
    (c = db ↔ k ≤ call.marksAt ∨ intent.status.terminal = true) ∧
      (intentStatus intent.intentId c = intentStatus intent.intentId db → c = db) := by
  cases call with
  | verifySubscription reference =>
    rw [rollback] at h
    split at h
    · cases h
    · rename_i found hfound
      obtain ⟨c', hc', heq⟩ := Option.map_eq_some_iff.mp h
      cases heq
      refine (marks_markSuccess now (checkIntent_find? hfound)).failedAt_iff ?_ ?_ hc'
      · apply isInside_of_forall
        simp [SubscriptionService.beforeMark, SubscriptionService.findPlan,
          SubscriptionService.findPendingSubscription, SubscriptionService.expireOthers,
          SubscriptionService.activate, SubscriptionService.setCompanyPlan, Transaction.IsInside]
      · apply isInside_of_forall
        simp [SubscriptionService.afterMark, SubscriptionService.postRevenue, Transaction.IsInside]
  | paymentJob job paymentId commissionId =>
    rw [rollback] at h
    split at h
    · cases h
    · rename_i i found v hfound
      obtain ⟨c', hc', heq⟩ := Option.map_eq_some_iff.mp h
      cases heq
      refine (marks_ignoreConflict now (paymentCheck_find? hfound)).failedAt_iff ?_ ?_ hc'
      · apply isInside_of_forall
        simp [PaymentWorker.beforeMark, PaymentWorker.paymentStep, PaymentWorker.installmentStep,
          PaymentWorker.commissionStep, PaymentWorker.ledgerStep, PaymentWorker.progressStep,
          PaymentWorker.contractStep, Transaction.IsInside]
      · apply isInside_of_forall
        simp [PaymentWorker.afterMark, Transaction.IsInside]
  | onboardingJob job ids =>
    rw [rollback] at h
    split at h
    · rename_i onboarding found hfound
      obtain ⟨c', hc', heq⟩ := Option.map_eq_some_iff.mp h
      cases heq
      refine (marks_ignoreConflict now (onboardingCheck_find? hfound)).failedAt_iff ?_ ?_ hc'
      · apply isInside_of_forall
        simp [OnboardingWorker.beforeMark, OnboardingWorker.findExistingUser,
          OnboardingWorker.createCompany, OnboardingWorker.createUser, OnboardingWorker.findPlan,
          OnboardingWorker.createSubscription, OnboardingWorker.setCompanyPlan,
          OnboardingWorker.postRevenue, OnboardingWorker.completeIntent,
          OnboardingWorker.unlessExisting, Transaction.IsInside]
      · apply isInside_of_forall
        simp [OnboardingWorker.afterMark, Transaction.IsInside]
    · cases h

/-- A rolled-back call can be retried exactly when it failed no later than at the
statement that marks the intent, or found the intent terminal. -/
theorem rollback_retryable_iff (call : MarkingCall)
    (verifyPaystack : String → Except String Verification) (now : DateTime) (k : ℕ)
    (db c : Database) (intent : PaymentIntent)
    (h : call.rollback verifyPaystack now k db = some (intent, c)) :
    call.Retryable verifyPaystack now intent.intentId db c ↔
      k ≤ call.marksAt ∨ intent.status.terminal = true := by
  obtain ⟨hiff, hstatus⟩ := rollback_spec h
  rw [← hiff]
  constructor
  · intro hretry
    exact hstatus hretry.1
  · intro hcdb
    rw [hcdb]
    exact ⟨rfl, rfl⟩

/-- A company with a pending subscription, paid under the reference `r`. -/
def paidSubscription : Database where
  companies := ⟨[{ companyId := "co", name := "Company" }], by decide⟩
  subscriptionPlans := ⟨[{ planId := "plan", name := "Pro", price := 100 }], by decide⟩
  companySubscriptions :=
    ⟨[{ subscriptionId := "s", companyId := "co", planId := "plan" }], by decide⟩
  paymentIntents := ⟨[{ intentId := "n", type := .subscription, reference := some "r"
                        status := .pending, amount := 100, companyId := some "co"
                        planId := some "plan", expiresAt := 0 }], by decide⟩

def chargeSucceeded (_ : String) : Except String Verification := .ok { status := "success" }

/-- The commit fails: the intent stays SUCCESS, and every retry meets a conflict
where the call itself would have succeeded. -/
theorem failed_commit_blocks_retry :
    ((verifySubscription "r").rollback chargeSucceeded 0 7 paidSubscription).map (fun left =>
      (left.1.status, intentStatus "n" left.2,
        ((verifySubscription "r").outcome chargeSucceeded 0 left.2).2.isOk)) =
      some (.pending, some .success, false) ∧
    ((verifySubscription "r").outcome chargeSucceeded 0 paidSubscription).2.isOk = true := by
  decide +kernel

/-- A failure of the statement that sets the company's plan leaves no trace. -/
theorem failed_update_retryable : (verifySubscription "r").Retryable chargeSucceeded 0 "n"
    paidSubscription paidSubscription :=
  (rollback_retryable_iff (verifySubscription "r") chargeSucceeded 0 4 paidSubscription
    paidSubscription { intentId := "n", type := .subscription, reference := some "r"
                       status := .pending, amount := 100, companyId := some "co"
                       planId := some "plan", expiresAt := 0 } rfl).mpr (.inl (by decide))

end MarkingCall

end InstalFlow
