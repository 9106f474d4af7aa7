import InstalFlow.RolledBackIntents
import InstalFlow.SubscriptionPrograms

/-!
# Payments that activate a subscription

`verifySubscription` and the onboarding job as functions of what they find: each
goes through under conditions on the rows that it reads, writes the subscription
and the plan of the company then, and leaves the subscriptions alone otherwise.
-/

namespace InstalFlow
open Relational

namespace SubscriptionService
variable {verifyPaystack : String → Except String Verification} {reference : String}
  {now : DateTime} {db : Database}

/-- A verification that goes through, with what it has found. -/
structure Verifies (verifyPaystack : String → Except String Verification) (reference : String)
    (db : Database) (intent : PaymentIntent) (plan : SubscriptionPlan)
    (pendingSubscription : CompanySubscription) : Prop where
  checked : checkIntent verifyPaystack reference db = .ok intent
  plan : intent.planId.bind db.subscriptionPlans.find? = some plan
  pending : pendingOf intent.companyId db = some pendingSubscription
  company : (db.companies.find? (intent.companyId.getD "")).isSome
  unmarked : intent.status.terminal = false

theorem expiredSubscription_subscriptionId (s : CompanySubscription) :
    (expiredSubscription s).subscriptionId = s.subscriptionId := rfl

theorem activatedSubscription_subscriptionId (plan : SubscriptionPlan) (now : DateTime)
    (s : CompanySubscription) : (activatedSubscription plan now s).subscriptionId =
      s.subscriptionId := rfl

theorem planned_companyId (plan : SubscriptionPlan) (c : Company) :
    ({ c with plan := plan.name } : Company).companyId = c.companyId := rfl

theorem succeeded_intentId (now : DateTime) (i : PaymentIntent) :
    ({ i with status := .success, updatedAt := now } : PaymentIntent).intentId = i.intentId := rfl

/-- The rows of subscriptions after the activation of one of them. -/
def activatedRows (companyId : Option String) (plan : SubscriptionPlan)
    (pendingSubscription : CompanySubscription) (now : DateTime)
    (subscriptions : Table CompanySubscription.subscriptionId) :
    Table CompanySubscription.subscriptionId :=
  (subscriptions.updateMany
    (fun s => some s.companyId = companyId ∧
      some s.subscriptionId ≠ some pendingSubscription.subscriptionId ∧ s.status ≠ .expired)
    expiredSubscription expiredSubscription_subscriptionId).update pendingSubscription.subscriptionId
      (activatedSubscription plan now) (activatedSubscription_subscriptionId plan now)

/-- What the transaction has written when it marks the intent. -/
def activated (intent : PaymentIntent) (plan : SubscriptionPlan)
    (pendingSubscription : CompanySubscription) (now : DateTime) (db : Database) : Database :=
  { db with
    companySubscriptions := activatedRows intent.companyId plan pendingSubscription now
      db.companySubscriptions
    companies := db.companies.update (intent.companyId.getD "")
      (fun c => { c with plan := plan.name }) (planned_companyId plan) }

/-- What the verification books. -/
def revenueOf (reference : String) (intent : PaymentIntent) (plan : SubscriptionPlan) :
    LedgerTransaction :=
  revenuePosting reference ("Subscription Payment: " ++ plan.name) intent.companyId
    (bookedPrice plan)

/-- The intents when the mark of one of them is written. -/
def succeededIntents (intent : PaymentIntent) (now : DateTime) (db : Database) :
    Table PaymentIntent.intentId :=
  (PaymentIntentService.updateIntent db intent.intentId
    (fun i => { i with status := .success, updatedAt := now })
    (succeeded_intentId now)).paymentIntents

section steps
variable {committed view : Database} {locals : Activation}

theorem step_findPlan {planId : Option String} {plan : SubscriptionPlan}
    (h : planId.bind view.subscriptionPlans.find? = some plan) :
    Transaction.step ⟨committed, view, locals⟩ (findPlan planId) =
      .ok ⟨committed, view, { locals with plan }⟩ := by
  rw [findPlan, Transaction.step, h]

theorem step_findPendingSubscription {companyId : Option String} {s : CompanySubscription}
    (h : pendingOf companyId view = some s) :
    Transaction.step ⟨committed, view, locals⟩ (findPendingSubscription companyId) =
      .ok ⟨committed, view, { locals with pendingSubscription := s }⟩ := by
  rw [pendingOf] at h
  rw [findPendingSubscription, Transaction.step, h]

theorem step_expireOthers {s : CompanySubscription} {plan : Option SubscriptionPlan}
    (companyId : Option String) :
    Transaction.step ⟨committed, view, { plan, pendingSubscription := some s }⟩
      (expireOthers companyId) =
        .ok ⟨committed,
          { view with
            companySubscriptions := view.companySubscriptions.updateMany
              (fun t => some t.companyId = companyId ∧
                some t.subscriptionId ≠ some s.subscriptionId ∧ t.status ≠ .expired)
              expiredSubscription (fun _ => rfl) },
          { plan, pendingSubscription := some s }⟩ := rfl

theorem step_activate {s : CompanySubscription} {plan : SubscriptionPlan}
    (h : (view.companySubscriptions.find? s.subscriptionId).isSome) :
    Transaction.step ⟨committed, view, { plan := some plan, pendingSubscription := some s }⟩
      (activate now) =
        .ok ⟨committed,
          { view with
            companySubscriptions := view.companySubscriptions.update s.subscriptionId
              (activatedSubscription plan now) (fun _ => rfl) },
          { plan := some plan, pendingSubscription := some s }⟩ := by
  rw [activate, Transaction.step]
  simp only [Option.map_some, Option.getD_some, updateRow, h, if_true]
  rfl

theorem step_setCompanyPlan {companyId : Option String} {plan : SubscriptionPlan}
    {s : Option CompanySubscription} (h : (view.companies.find? (companyId.getD "")).isSome) :
    Transaction.step ⟨committed, view, { plan := some plan, pendingSubscription := s }⟩
      (setCompanyPlan companyId) =
        .ok ⟨committed,
          { view with
            companies := view.companies.update (companyId.getD "")
              (fun c => { c with plan := plan.name }) (fun _ => rfl) },
          { plan := some plan, pendingSubscription := s }⟩ := by
  rw [setCompanyPlan, Transaction.step]
  simp only [Option.map_some, Option.getD_some, updateRow, h, if_true]

theorem markSuccess_open {intent : PaymentIntent} {db : Database}
    (h : db.paymentIntents.find? intent.intentId = some intent)
    (hopen : intent.status.terminal = false) :
    PaymentIntentService.markSuccess intent.intentId now db =
      .ok (PaymentIntentService.updateIntent db intent.intentId
        (fun i => { i with status := .success, updatedAt := now })) := by
  rw [PaymentIntentService.markSuccess, PaymentIntentService.transitionStatus, h]
  simp only [hopen]
  rfl

theorem step_markSuccess {intent : PaymentIntent}
    (hcommitted : committed.paymentIntents.find? intent.intentId = some intent)
    (hview : view.paymentIntents.find? intent.intentId = some intent)
    (hopen : intent.status.terminal = false) :
    Transaction.step ⟨committed, view, locals⟩
      (.outside (PaymentIntentService.markSuccess intent.intentId now)) =
        .ok ⟨PaymentIntentService.updateIntent committed intent.intentId
            (fun i => { i with status := .success, updatedAt := now }),
          PaymentIntentService.updateIntent view intent.intentId
            (fun i => { i with status := .success, updatedAt := now }), locals⟩ := by
  rw [Transaction.step, markSuccess_open hcommitted hopen, markSuccess_open hview hopen]
  rfl

theorem rereadIntent_updateIntent {intentId : String} {intent : PaymentIntent}
    {f : PaymentIntent → PaymentIntent} (hf : ∀ i, (f i).intentId = i.intentId)
    (h : view.paymentIntents.find? intentId = some intent) :
    rereadIntent intentId (PaymentIntentService.updateIntent view intentId f hf) =
      .ok (PaymentIntentService.updateIntent view intentId f hf) := by
  have hfind : (PaymentIntentService.updateIntent view intentId f hf).paymentIntents.find? intentId =
      some (f intent) := by
    rw [PaymentIntentService.updateIntent, Table.find?_update, if_pos rfl, h]
    rfl
  rw [rereadIntent, hfind]

/-- The revenue is booked with equal sums. -/
theorem record_revenuePosting (reference description : String) (companyId : Option String)
    (price : ℚ) (l : Ledger) : ∃ ledger,
      LedgerService.recordTransaction (revenuePosting reference description companyId price) l =
        .ok ledger := by
  refine ⟨_, if_neg (not_not.mpr ?_)⟩
  simp [revenuePosting, LedgerService.totalDebits, LedgerService.totalCredits]

theorem post_of_recorded {data : LedgerTransaction} {ledger : Ledger}
    (h : LedgerService.recordTransaction data view.ledger = .ok ledger) :
    post data view = .ok { view with ledger } := by
  rw [post, h]

end steps

variable {intent : PaymentIntent} {plan : SubscriptionPlan} {s : CompanySubscription}

/-- The transaction up to the rows of subscriptions. -/
theorem execute_activate (hplan : intent.planId.bind db.subscriptionPlans.find? = some plan)
    (hpending : pendingOf intent.companyId db = some s) :
    Transaction.execute ⟨db, db, {}⟩ (transaction intent reference now) =
      Transaction.execute
        ⟨db,
          { db with
            companySubscriptions :=
              activatedRows intent.companyId plan s now db.companySubscriptions },
          { plan, pendingSubscription := s }⟩
        (setCompanyPlan intent.companyId ::
          .outside (PaymentIntentService.markSuccess intent.intentId now) ::
            afterMark intent reference) := by
  have hfound : ((db.companySubscriptions.updateMany
      (fun t => some t.companyId = intent.companyId ∧
        some t.subscriptionId ≠ some s.subscriptionId ∧ t.status ≠ .expired)
      expiredSubscription (fun _ => rfl)).find? s.subscriptionId).isSome := by
    refine (congrArg Option.isSome (Table.find?_updateMany _ _ _ _ _)).trans ?_
    rw [Option.isSome_map, Table.find?_of_mem (List.mem_of_find?_eq_some hpending)]
    rfl
  exact (Transaction.execute_of_ok (step_findPlan hplan)).trans
    ((Transaction.execute_of_ok (step_findPendingSubscription hpending)).trans
      ((Transaction.execute_of_ok (step_expireOthers intent.companyId)).trans
        (Transaction.execute_of_ok (step_activate hfound))))

/-- The rest of it, when the intent is marked. -/
theorem execute_mark (view : Database)
    (hcompany : (view.companies.find? (intent.companyId.getD "")).isSome)
    (hcommitted : db.paymentIntents.find? intent.intentId = some intent)
    (hview : view.paymentIntents.find? intent.intentId = some intent)
    (hopen : intent.status.terminal = false) : ∃ ledger,
      LedgerService.recordTransaction (revenueOf reference intent plan) view.ledger = .ok ledger ∧
      (Transaction.execute ⟨db, view, { plan := some plan, pendingSubscription := some s }⟩
        (setCompanyPlan intent.companyId ::
          .outside (PaymentIntentService.markSuccess intent.intentId now) ::
            afterMark intent reference)).1 =
        { view with
          companies := view.companies.update (intent.companyId.getD "")
            (fun c => { c with plan := plan.name }) (fun _ => rfl)
          paymentIntents := succeededIntents intent now view
          ledger } := by
  let planned : Database := { view with
    companies := view.companies.update (intent.companyId.getD "")
      (fun c => { c with plan := plan.name }) (fun _ => rfl) }
  let mark (db : Database) := PaymentIntentService.updateIntent db intent.intentId
    (fun i => { i with status := .success, updatedAt := now })
  let locals : Activation := { plan, pendingSubscription := s }
  have hmark : Transaction.execute ⟨db, view, locals⟩
      (setCompanyPlan intent.companyId ::
        .outside (PaymentIntentService.markSuccess intent.intentId now) ::
          afterMark intent reference) =
      Transaction.execute ⟨mark db, mark planned, locals⟩ (afterMark intent reference) :=
    (Transaction.execute_of_ok (step_setCompanyPlan hcompany)).trans
      (Transaction.execute_of_ok (step_markSuccess hcommitted hview hopen))
  have hreread : rereadIntent intent.intentId (mark planned) = .ok (mark planned) :=
    rereadIntent_updateIntent _ hview
  obtain ⟨ledger, hrecord⟩ := record_revenuePosting reference
    ("Subscription Payment: " ++ plan.name) intent.companyId (bookedPrice plan) view.ledger
  have hpost : post (revenueOf reference intent plan) (mark planned) =
      .ok { mark planned with ledger } := post_of_recorded hrecord
  refine ⟨ledger, hrecord, (congrArg Prod.fst hmark).trans ?_⟩
  have hpostRevenue : Transaction.step ⟨mark db, mark planned, locals⟩
      (postRevenue reference intent.companyId) =
        .ok ⟨mark db, { mark planned with ledger }, locals⟩ := by
    rw [revenueOf] at hpost
    rw [postRevenue, Transaction.step]
    simp only [locals, Option.map_some, Option.getD_some, hpost]
  rw [afterMark, Transaction.execute_of_ok (t := ⟨mark db, mark planned, locals⟩),
    Transaction.execute_of_ok hpostRevenue]
  · rfl
  · rw [Transaction.step, hreread]
    rfl

/-- An intent that has come to an end fails the transaction. -/
theorem execute_conflict (view : Database)
    (hcompany : (view.companies.find? (intent.companyId.getD "")).isSome)
    (hcommitted : db.paymentIntents.find? intent.intentId = some intent)
    (hterminal : intent.status.terminal = true) :
    (Transaction.execute ⟨db, view, { plan := some plan, pendingSubscription := some s }⟩
      (setCompanyPlan intent.companyId ::
        .outside (PaymentIntentService.markSuccess intent.intentId now) ::
          afterMark intent reference)).1 = db := by
  obtain ⟨message, hmark⟩ := PaymentIntentService.markSuccess_of_terminal now hcommitted hterminal
  rw [Transaction.execute_of_ok (step_setCompanyPlan hcompany), Transaction.execute_of_error]
  rw [Transaction.step, hmark]

/-- A verification activates the pending subscription, or leaves everything. -/
theorem verifySubscription_cases (verifyPaystack : String → Except String Verification)
    (reference : String) (now : DateTime) (db : Database) :
    (∃ intent plan s, Verifies verifyPaystack reference db intent plan s ∧ ∃ ledger,
      LedgerService.recordTransaction (revenueOf reference intent plan) db.ledger = .ok ledger ∧
      (verifySubscription verifyPaystack reference now db).1 =
        { activated intent plan s now db with
          paymentIntents := succeededIntents intent now db, ledger }) ∨
    (∀ intent plan s, ¬ Verifies verifyPaystack reference db intent plan s) ∧
      (verifySubscription verifyPaystack reference now db).1 = db := by
  rw [verifySubscription]
  cases hcheck : checkIntent verifyPaystack reference db with
  | error err =>
    refine .inr ⟨fun intent plan s h => ?_, rfl⟩
    rw [h.checked] at hcheck
    cases hcheck
  | ok intent =>
    have hsame {n : PaymentIntent} {plan : SubscriptionPlan} {s : CompanySubscription}
        (h : Verifies verifyPaystack reference db n plan s) : n = intent := by
      rw [h.checked] at hcheck
      cases hcheck
      rfl
    have hstored := MarkingCall.checkIntent_find? hcheck
    dsimp only
    cases hplan : intent.planId.bind db.subscriptionPlans.find? with
    | none =>
      refine .inr ⟨fun n plan s h => ?_, ?_⟩
      · have hfound := h.plan
        rw [hsame h, hplan] at hfound
        cases hfound
      · rw [transaction, beforeMark, List.cons_append, Transaction.execute_of_error]
        rw [findPlan, Transaction.step, hplan]
    | some plan =>
      cases hpending : pendingOf intent.companyId db with
      | none =>
        refine .inr ⟨fun n plan s h => ?_, ?_⟩
        · have hfound := h.pending
          rw [hsame h, hpending] at hfound
          cases hfound
        · rw [transaction, beforeMark, List.cons_append,
            Transaction.execute_of_ok (step_findPlan hplan), List.cons_append,
            Transaction.execute_of_error]
          rw [pendingOf] at hpending
          rw [findPendingSubscription, Transaction.step, hpending]
      | some s =>
        rw [execute_activate hplan hpending]
        cases hcompany : (db.companies.find? (intent.companyId.getD "")).isSome with
        | false =>
          refine .inr ⟨fun n plan s h => ?_, ?_⟩
          · have hfound := h.company
            rw [hsame h, hcompany] at hfound
            cases hfound
          · rw [Transaction.execute_of_error]
            rw [setCompanyPlan, Transaction.step]
            simp only [updateRow, hcompany]
            rfl
        | true =>
          cases hopen : intent.status.terminal with
          | true =>
            refine .inr ⟨fun n plan s h => ?_, ?_⟩
            · have hfound := h.unmarked
              rw [hsame h, hopen] at hfound
              cases hfound
            · exact execute_conflict
                { db with
                  companySubscriptions :=
                    activatedRows intent.companyId plan s now db.companySubscriptions }
                hcompany hstored hopen
          | false =>
            refine .inl ⟨intent, plan, s, ⟨hcheck, hplan, hpending, hcompany, hopen⟩, ?_⟩
            exact execute_mark
              { db with
                companySubscriptions :=
                  activatedRows intent.companyId plan s now db.companySubscriptions }
              hcompany hstored hstored hopen

end SubscriptionService
namespace OnboardingWorker
open SubscriptionService (record_revenuePosting post_of_recorded)
variable {verifyPaystack : String → Except String Verification} {job : OnboardingJobData}
  {ids : OnboardingIds} {now : DateTime} {db : Database} {onboarding : OnboardingIntent}
  {payment : PaymentIntent} {plan : SubscriptionPlan}

/-- A job that creates a company, with what it has found. -/
structure Onboards (verifyPaystack : String → Except String Verification) (job : OnboardingJobData)
    (ids : OnboardingIds) (db : Database) (onboarding : OnboardingIntent) (payment : PaymentIntent)
    (plan : SubscriptionPlan) : Prop where
  checked : checkJob verifyPaystack job db = .ok (.paid onboarding payment)
  newUser : db.users.rows.any (fun u => u.email = onboarding.email) = false
  companyId : db.companies.find? ids.companyId = none
  userId : db.users.find? ids.userId = none
  plan : db.subscriptionPlans.find? onboarding.planId = some plan
  subscriptionId : db.companySubscriptions.find? ids.subscriptionId = none

theorem checkJob_paid (h : checkJob verifyPaystack job db = .ok (.paid onboarding payment)) :
    db.onboardingIntents.find? onboarding.intentId = some onboarding := by
  rw [checkJob] at h
  split at h
  · cases h
  · rename_i intent hfind
    split at h
    · cases h
    · split at h
      · cases h
      · split at h
        · cases h
        · cases h
          exact Table.find?_of_mem (Table.mem_of_find? hfind)

theorem checkJob_isSome (h : checkJob verifyPaystack job db = .ok (.paid onboarding payment)) :
    (db.onboardingIntents.find? onboarding.intentId).isSome := by
  rw [checkJob_paid h]
  rfl

/-- What the job books for a new company. -/
def onboardingRevenue (ids : OnboardingIds) (reference : String) (plan : SubscriptionPlan) :
    LedgerTransaction :=
  SubscriptionService.revenuePosting reference "Onboarding Subscription" (some ids.companyId)
    plan.price

/-- The subscription that the job creates. -/
def onboardedSubscription (ids : OnboardingIds) (plan : SubscriptionPlan) (now : DateTime) :
    CompanySubscription where
  subscriptionId := ids.subscriptionId
  companyId := ids.companyId
  planId := plan.planId
  status := .active
  startDate := some now
  endDate := some (periodEnd plan.interval now)
  createdAt := now

section steps
variable {committed view view' : Database} {locals locals' : Locals}
  {f : Locals → Database → Except AppError (Locals × Database)}

theorem step_unlessExisting (hnew : locals.existingUser = false)
    (h : f locals view = .ok (locals', view')) :
    Transaction.step ⟨committed, view, locals⟩ (unlessExisting f) =
      .ok ⟨committed, view', locals'⟩ := by
  rw [unlessExisting, Transaction.step]
  simp only [hnew, Bool.false_eq_true, if_false, h]

theorem step_existing (hexisting : locals.existingUser = true) :
    Transaction.step ⟨committed, view, locals⟩ (unlessExisting f) = .ok ⟨committed, view, locals⟩ := by
  rw [unlessExisting, Transaction.step]
  simp only [hexisting, if_true]

/-- The mark ignores that the intent has come to an end. -/
theorem markPaymentIntentSuccess_eq_ok (now : DateTime)
    (h : db.paymentIntents.find? payment.intentId = some payment) :
    markPaymentIntentSuccess payment.intentId now db =
        .ok { db with paymentIntents := PaymentWorker.markedSuccess payment now db } ∧
      rereadIntent payment.intentId
          { db with paymentIntents := PaymentWorker.markedSuccess payment now db } =
        .ok { db with paymentIntents := PaymentWorker.markedSuccess payment now db } := by
  obtain ⟨db', hmark⟩ := PaymentWorker.markIntentSuccess_isOk now h
  have hdb := PaymentIntentService.ignoreConflict_markSuccess hmark
  have hreread := PaymentWorker.rereadIntent_markedSuccess now h hmark
  subst hdb
  exact ⟨hmark, hreread⟩

/-- The end of every transaction: the onboarding is completed and the intent marked. -/
theorem execute_complete (now : DateTime) (view : Database) (locals : Locals)
    (honboarding : (view.onboardingIntents.find? onboarding.intentId).isSome)
    (hcommitted : db.paymentIntents.find? payment.intentId = some payment)
    (hview : view.paymentIntents.find? payment.intentId = some payment) :
    ∃ onboardingIntents,
      (Transaction.execute ⟨db, view, locals⟩
        (completeIntent onboarding.intentId ::
          .outside (markPaymentIntentSuccess payment.intentId now) ::
            afterMark payment.intentId)).1 =
        { view with
          onboardingIntents, paymentIntents := PaymentWorker.markedSuccess payment now view } := by
  let completed : Database := { view with
    onboardingIntents := view.onboardingIntents.update onboarding.intentId
      (fun i => { i with status := .completed }) (fun _ => rfl) }
  have hcompleted : completed.paymentIntents.find? payment.intentId = some payment := hview
  let marked (db : Database) : Database :=
    { db with paymentIntents := PaymentWorker.markedSuccess payment now db }
  have hmark : markPaymentIntentSuccess payment.intentId now db = .ok (marked db) :=
    (markPaymentIntentSuccess_eq_ok now hcommitted).1
  obtain ⟨hmark', hreread⟩ := markPaymentIntentSuccess_eq_ok now hcompleted
  have hcomplete : Transaction.step ⟨db, view, locals⟩ (completeIntent onboarding.intentId) =
      .ok ⟨db, completed, locals⟩ := by
    rw [completeIntent, Transaction.step]
    simp only [updateRow, honboarding, if_true]
    rfl
  have hmarked : Transaction.step ⟨db, completed, locals⟩
      (.outside (markPaymentIntentSuccess payment.intentId now)) =
        .ok ⟨marked db, marked completed, locals⟩ := by
    rw [Transaction.step, hmark, hmark']
    rfl
  have hreread' : Transaction.step ⟨marked db, marked completed, locals⟩
      (.inside fun locals db => (rereadIntent payment.intentId db).map (locals, ·)) =
        .ok ⟨marked db, marked completed, locals⟩ := by
    rw [Transaction.step, hreread]
    rfl
  refine ⟨completed.onboardingIntents, ?_⟩
  rw [Transaction.execute_of_ok hcomplete, Transaction.execute_of_ok hmarked, afterMark,
    Transaction.execute_of_ok hreread']
  rfl

end steps

/-- What the transaction of a new company has written before the onboarding is completed. -/
theorem execute_onboard {companies : Table Company.companyId} {users : Table User.userId}
    {subscriptions : Table CompanySubscription.subscriptionId}
    (hcompanies : db.companies.create
      { companyId := ids.companyId, name := onboarding.companyName, plan := "Pending" } =
        some companies)
    (huser : db.users.rows.any (fun u => u.email = onboarding.email) = false)
    (husers : db.users.create
      { userId := ids.userId, email := onboarding.email, name := some onboarding.adminName
        role := .company, companyId := some ids.companyId } = some users)
    (hplan : db.subscriptionPlans.find? onboarding.planId = some plan)
    (hsubscriptions : db.companySubscriptions.create (onboardedSubscription ids plan now) =
      some subscriptions) :
    ∃ ledger, LedgerService.recordTransaction (onboardingRevenue ids job.reference plan) db.ledger =
        .ok ledger ∧
      Transaction.execute ⟨db, db, {}⟩ (transaction onboarding payment ids job.reference now) =
      Transaction.execute
        ⟨db,
          { db with
            companies := companies.update ids.companyId (fun c => { c with plan := plan.name })
              (fun _ => rfl)
            users, companySubscriptions := subscriptions, ledger },
          { existingUser := false, plan }⟩
        (completeIntent onboarding.intentId ::
          .outside (markPaymentIntentSuccess payment.intentId now) ::
            afterMark payment.intentId) := by
  let new : Locals := { existingUser := false }
  let found : Locals := { existingUser := false, plan }
  let db₁ : Database := { db with companies }
  let db₂ : Database := { db₁ with users }
  let db₃ : Database := { db₂ with companySubscriptions := subscriptions }
  let db₄ : Database := { db₃ with
    companies := companies.update ids.companyId (fun c => { c with plan := plan.name })
      (fun _ => rfl) }
  obtain ⟨ledger, hrecord⟩ := record_revenuePosting job.reference "Onboarding Subscription"
    (some ids.companyId) plan.price db.ledger
  have hpost : post (onboardingRevenue ids job.reference plan) db₄ = .ok { db₄ with ledger } :=
    post_of_recorded hrecord
  rw [onboardingRevenue] at hpost
  have hfind : Transaction.step ⟨db, db, {}⟩ (findExistingUser onboarding.email) =
      .ok ⟨db, db, new⟩ := by
    rw [findExistingUser, Transaction.step, huser]
  have hcompany : Transaction.step ⟨db, db, new⟩ (createCompany ids onboarding.companyName) =
      .ok ⟨db, db₁, new⟩ :=
    step_unlessExisting rfl (by rw [createRow_eq_ok.mpr hcompanies])
  have huser : Transaction.step ⟨db, db₁, new⟩ (createUser ids onboarding) = .ok ⟨db, db₂, new⟩ :=
    step_unlessExisting rfl (by
      rw [if_neg (by rw [huser]; exact Bool.false_ne_true), createRow_eq_ok.mpr husers])
  have hplan : Transaction.step ⟨db, db₂, new⟩ (findPlan onboarding.planId) = .ok ⟨db, db₂, found⟩ :=
    step_unlessExisting rfl (by rw [hplan])
  have hcreate : createRow db₂.companySubscriptions (onboardedSubscription ids plan now)
      ["subscriptionId"] = .ok subscriptions := createRow_eq_ok.mpr hsubscriptions
  have hsubscription : Transaction.step ⟨db, db₂, found⟩ (createSubscription ids onboarding now) =
      .ok ⟨db, db₃, found⟩ :=
    step_unlessExisting rfl (by
      rw [onboardedSubscription] at hcreate
      simp only [found, Option.map_some, Option.getD_some, hcreate]
      rfl)
  have hcreated : (db₃.companies.find? ids.companyId).isSome := by
    refine (congrArg Option.isSome (Table.find?_create hcompanies ids.companyId)).trans ?_
    rw [if_pos rfl]
    rfl
  have hcompanyPlan : Transaction.step ⟨db, db₃, found⟩ (setCompanyPlan ids) = .ok ⟨db, db₄, found⟩ :=
    step_unlessExisting rfl (by
      simp only [found, Option.map_some, Option.getD_some, updateRow, hcreated, if_true]
      rfl)
  have hrevenue : Transaction.step ⟨db, db₄, found⟩ (postRevenue ids job.reference) =
      .ok ⟨db, { db₄ with ledger }, found⟩ :=
    step_unlessExisting rfl (by simp only [found, Option.map_some, Option.getD_some, hpost])
  refine ⟨ledger, hrecord, ?_⟩
  rw [transaction, beforeMark]
  simp only [List.cons_append, List.nil_append]
  rw [Transaction.execute_of_ok hfind, Transaction.execute_of_ok hcompany,
    Transaction.execute_of_ok huser, Transaction.execute_of_ok hplan,
    Transaction.execute_of_ok hsubscription, Transaction.execute_of_ok hcompanyPlan,
    Transaction.execute_of_ok hrevenue]

/-- For a user who exists already there is nothing to create. -/
theorem execute_existing (hexisting : db.users.rows.any (fun u => u.email = onboarding.email) = true) :
    Transaction.execute ⟨db, db, {}⟩ (transaction onboarding payment ids job.reference now) =
      Transaction.execute ⟨db, db, { existingUser := true }⟩
        (completeIntent onboarding.intentId ::
          .outside (markPaymentIntentSuccess payment.intentId now) ::
            afterMark payment.intentId) := by
  have hfind : Transaction.step ⟨db, db, {}⟩ (findExistingUser onboarding.email) =
      .ok ⟨db, db, { existingUser := true }⟩ := by
    rw [findExistingUser, Transaction.step, hexisting]
  have hskip (f : Locals → Database → Except AppError (Locals × Database)) :
      Transaction.step ⟨db, db, { existingUser := true }⟩ (unlessExisting f) =
        .ok ⟨db, db, { existingUser := true }⟩ := step_existing rfl
  rw [transaction, beforeMark]
  simp only [List.cons_append, List.nil_append, createCompany, createUser, findPlan,
    createSubscription, setCompanyPlan, postRevenue]
  rw [Transaction.execute_of_ok hfind, Transaction.execute_of_ok (hskip _),
    Transaction.execute_of_ok (hskip _), Transaction.execute_of_ok (hskip _),
    Transaction.execute_of_ok (hskip _), Transaction.execute_of_ok (hskip _),
    Transaction.execute_of_ok (hskip _)]

theorem beforeMark_inside (reference : String) :
    ∀ x ∈ beforeMark onboarding ids reference now, Transaction.IsInside x := by
  apply MarkingCall.isInside_of_forall
  simp [beforeMark, findExistingUser, createCompany, createUser, findPlan, createSubscription,
    setCompanyPlan, postRevenue, completeIntent, unlessExisting, Transaction.IsInside]

/-- The statements before the mark succeed for a new user when the rows are free and
the plan is there. -/
theorem of_steps_beforeMark {t : TransactionState Database Locals}
    (hnew : db.users.rows.any (fun u => u.email = onboarding.email) = false)
    (h : Transaction.steps ⟨db, db, {}⟩ (beforeMark onboarding ids job.reference now) = .ok t) :
    db.companies.find? ids.companyId = none ∧ db.users.find? ids.userId = none ∧
      db.companySubscriptions.find? ids.subscriptionId = none ∧
      ∃ plan, db.subscriptionPlans.find? onboarding.planId = some plan := by
  rw [beforeMark] at h
  obtain ⟨_, db₁, hfind, h⟩ := Transaction.steps_inside_eq_ok h
  cases hfind
  obtain ⟨_, db₂, hcompany, h⟩ := Transaction.steps_inside_eq_ok h
  obtain ⟨_, db₃, huser, h⟩ := Transaction.steps_inside_eq_ok h
  obtain ⟨_, db₄, hplan, h⟩ := Transaction.steps_inside_eq_ok h
  obtain ⟨_, db₅, hsubscription, -⟩ := Transaction.steps_inside_eq_ok h
  simp only [hnew, Bool.false_eq_true, if_false] at hcompany
  split at hcompany
  · cases hcompany
  · rename_i companies hcompanies
    cases hcompany
    simp only [Bool.false_eq_true, if_false] at huser
    split at huser
    · cases huser
    · split at huser
      · cases huser
      · rename_i users husers
        cases huser
        simp only [Bool.false_eq_true, if_false] at hplan
        split at hplan
        · cases hplan
        · rename_i plan hfound
          cases hplan
          simp only [Bool.false_eq_true, if_false] at hsubscription
          split at hsubscription
          · cases hsubscription
          · rename_i subscriptions hsubscriptions
            exact ⟨(Table.create_eq_some (createRow_eq_ok.mp hcompanies)).1,
              (Table.create_eq_some (createRow_eq_ok.mp husers)).1,
              (Table.create_eq_some (createRow_eq_ok.mp hsubscriptions)).1, plan, hfound⟩

theorem process_of_paid (hcheck : checkJob verifyPaystack job db = .ok (.paid onboarding payment))
    (ids : OnboardingIds) (now : DateTime) : process verifyPaystack job ids now db =
      Transaction.execute ⟨db, db, {}⟩
        (transaction onboarding payment ids job.reference now) := by
  rw [process, hcheck]

/-- The company, its admin and its subscription, with the revenue that is posted. -/
theorem process_of_onboards (now : DateTime)
    (h : Onboards verifyPaystack job ids db onboarding payment plan) :
    ∃ companies users subscriptions ledger onboardingIntents,
      LedgerService.recordTransaction (onboardingRevenue ids job.reference plan) db.ledger =
        .ok ledger ∧
      db.companies.create
        { companyId := ids.companyId, name := onboarding.companyName, plan := "Pending" } =
          some companies ∧
      db.companySubscriptions.create (onboardedSubscription ids plan now) = some subscriptions ∧
      (process verifyPaystack job ids now db).1 =
        { db with
          companies := companies.update ids.companyId (fun c => { c with plan := plan.name })
            (fun _ => rfl)
          users, companySubscriptions := subscriptions, ledger, onboardingIntents
          paymentIntents := PaymentWorker.markedSuccess payment now db } := by
  have hstored := MarkingCall.onboardingCheck_find? h.checked
  obtain ⟨companies, hcompanies⟩ := Table.create_isSome (t := db.companies)
    (r := { companyId := ids.companyId, name := onboarding.companyName, plan := "Pending" })
    h.companyId
  obtain ⟨users, husers⟩ := Table.create_isSome (t := db.users)
    (r := { userId := ids.userId, email := onboarding.email
            name := some onboarding.adminName, role := .company
            companyId := some ids.companyId }) h.userId
  obtain ⟨subscriptions, hsubscriptions⟩ := Table.create_isSome (t := db.companySubscriptions)
    (r := onboardedSubscription ids plan now) h.subscriptionId
  obtain ⟨ledger, hrecord, hexecute⟩ := execute_onboard hcompanies h.newUser husers h.plan
    hsubscriptions
  obtain ⟨onboardings, hcomplete⟩ := execute_complete now
    { db with
      companies := companies.update ids.companyId (fun c => { c with plan := plan.name })
        (fun _ => rfl)
      users, companySubscriptions := subscriptions, ledger }
    { existingUser := false, plan } (checkJob_isSome h.checked) hstored hstored
  refine ⟨companies, users, subscriptions, ledger, onboardings, hrecord, hcompanies,
    hsubscriptions, ?_⟩
  rw [process_of_paid h.checked]
  exact (congrArg Prod.fst hexecute).trans hcomplete

theorem process_of_existing (ids : OnboardingIds) (now : DateTime)
    (hcheck : checkJob verifyPaystack job db = .ok (.paid onboarding payment))
    (hexisting : db.users.rows.any (fun u => u.email = onboarding.email) = true) :
    ∃ onboardingIntents, (process verifyPaystack job ids now db).1 =
      { db with
        onboardingIntents, paymentIntents := PaymentWorker.markedSuccess payment now db } := by
  have hstored := MarkingCall.onboardingCheck_find? hcheck
  obtain ⟨onboardings, hcomplete⟩ := execute_complete now db { existingUser := true }
    (checkJob_isSome hcheck) hstored hstored
  refine ⟨onboardings, ?_⟩
  rw [process_of_paid hcheck]
  exact (congrArg Prod.fst (execute_existing hexisting)).trans hcomplete

/-- Where a row is taken or the plan is missing the transaction is rolled back. -/
theorem process_of_not_onboards (now : DateTime)
    (hcheck : checkJob verifyPaystack job db = .ok (.paid onboarding payment))
    (hnew : db.users.rows.any (fun u => u.email = onboarding.email) = false)
    (hfree : ∀ plan, ¬ Onboards verifyPaystack job ids db onboarding payment plan) :
    (process verifyPaystack job ids now db).1 = db := by
  rw [process_of_paid hcheck]
  cases hsteps : Transaction.steps ⟨db, db, {}⟩ (beforeMark onboarding ids job.reference now) with
  | error err =>
    exact congrArg Prod.fst
      (Transaction.execute_append_of_error (beforeMark_inside job.reference) hsteps)
  | ok t =>
    obtain ⟨hcompany, huser, hsubscription, plan, hplan⟩ := of_steps_beforeMark hnew hsteps
    exact absurd ⟨hcheck, hnew, hcompany, huser, hplan, hsubscription⟩ (hfree plan)

/-- A job creates a company with its subscription, or no subscription. -/
theorem process_cases (verifyPaystack : String → Except String Verification)
    (job : OnboardingJobData) (ids : OnboardingIds) (now : DateTime) (db : Database) :
    (∃ onboarding payment plan, Onboards verifyPaystack job ids db onboarding payment plan ∧
      ∃ companies users subscriptions ledger onboardingIntents,
        LedgerService.recordTransaction (onboardingRevenue ids job.reference plan) db.ledger =
          .ok ledger ∧
        db.companies.create
          { companyId := ids.companyId, name := onboarding.companyName, plan := "Pending" } =
            some companies ∧
        db.companySubscriptions.create (onboardedSubscription ids plan now) = some subscriptions ∧
        (process verifyPaystack job ids now db).1 =
          { db with
            companies := companies.update ids.companyId (fun c => { c with plan := plan.name })
              (fun _ => rfl)
            users, companySubscriptions := subscriptions, ledger, onboardingIntents
            paymentIntents := PaymentWorker.markedSuccess payment now db }) ∨
    (∀ onboarding payment plan, ¬ Onboards verifyPaystack job ids db onboarding payment plan) ∧
      ((process verifyPaystack job ids now db).1 = db ∨ ∃ payment onboardingIntents,
        (process verifyPaystack job ids now db).1 =
          { db with
            onboardingIntents, paymentIntents := PaymentWorker.markedSuccess payment now db }) := by
  by_cases honboards : ∃ onboarding payment plan,
      Onboards verifyPaystack job ids db onboarding payment plan
  · obtain ⟨onboarding, payment, plan, h⟩ := honboards
    exact .inl ⟨onboarding, payment, plan, h, process_of_onboards now h⟩
  have hnone (o : OnboardingIntent) (n : PaymentIntent) (plan : SubscriptionPlan) :
      ¬ Onboards verifyPaystack job ids db o n plan := fun h => honboards ⟨o, n, plan, h⟩
  refine .inr ⟨hnone, ?_⟩
  cases hcheck : checkJob verifyPaystack job db with
  | error err =>
    rw [process, hcheck]
    exact .inl rfl
  | ok checked =>
    cases checked with
    | alreadyProcessed =>
      rw [process, hcheck]
      exact .inl rfl
    | paid onboarding payment =>
      cases hnew : db.users.rows.any (fun u => u.email = onboarding.email) with
      | true => exact .inr ⟨payment, process_of_existing ids now hcheck hnew⟩
      | false =>
        exact .inl (process_of_not_onboards now hcheck hnew (hnone onboarding payment))

end OnboardingWorker
end InstalFlow
