import InstalFlow.PaymentLinks
import InstalFlow.PlanActivations
import InstalFlow.SubscriptionActivations

/-!
# The plan that has been paid for

A pending subscription, an onboarding and a payment intent each hold the id of a
plan, written at different times. A payment activates the plan of its intent when
the row that the activation takes the plan from agrees with the intent.
-/

namespace InstalFlow
open Relational Transition

/-- What a company registers with. -/
structure CompanyRegister where
  email : String
  companyName : String
  adminName : String
  planId : String

/-- `upsert` by the e-mail. -/
def AuthService.startOnboarding (data : CompanyRegister) (uuid : String) (db : Database) :
    Except AppError Database :=
  if db.users.rows.any (fun u => u.email = data.email) then
    .error (.conflict "Admin email already in use")
  else if db.companies.rows.any (fun c => c.name = data.companyName) then
    .error (.conflict "Company name already taken")
  else
    match db.onboardingIntents.rows.find? (fun i => i.email = data.email) with
    | some intent =>
      .ok { db with
        onboardingIntents := db.onboardingIntents.update intent.intentId (fun i =>
          { i with
            companyName := data.companyName
            adminName := data.adminName
            planId := data.planId
            status := .pending }) (fun _ => rfl) }
    | none =>
      (createRow db.onboardingIntents
        { intentId := uuid, email := data.email, companyName := data.companyName
          adminName := data.adminName, planId := data.planId } ["intentId"]).map
        fun onboardingIntents => { db with onboardingIntents }

/-- The calls for a subscription or an onboarding, edits of the plans, what becomes
of intents, and the two payments that activate a subscription. -/
inductive PlanEvent
  | request (request : LinkRequest) (m : Moment)
  | startOnboarding (data : CompanyRegister) (uuid : String)
  | transitionIntent (intentId : String) (t : IntentTransition) (now : DateTime)
  | expireStale (now : DateTime)
  | editPlans (subscriptionPlans : Table SubscriptionPlan.planId)
  | verifySubscription (reference : String) (m : Moment)
  | onboardingJob (job : OnboardingJobData) (ids : OnboardingIds) (m : Moment)

namespace PlanEvent

def apply (db : Database) : PlanEvent → Database
  | request r m => (r.program.complete m db).1
  | startOnboarding data uuid => committed db id (AuthService.startOnboarding data uuid db)
  | transitionIntent intentId t now => committed db id (t.apply intentId now db)
  | expireStale now => PaymentIntentService.expireStale now db
  | editPlans subscriptionPlans => { db with subscriptionPlans }
  | verifySubscription reference m =>
      (SubscriptionService.verifySubscription m.verifyTransaction reference m.now db).1
  | onboardingJob job ids m => (OnboardingWorker.process m.verifyTransaction job ids m.now db).1

/-- The intent of the payment. -/
def payment? (db : Database) : PlanEvent → Option PaymentIntent
  | verifySubscription reference _ => PaymentIntentService.findByReference reference db
  | onboardingJob job _ _ => PaymentIntentService.findByReference job.reference db
  | _ => none

/-- A subscription that becomes ACTIVE is for the plan of the intent of the payment,
and so is the plan of its company. -/
def Entitled (db : Database) (e : PlanEvent) : Prop :=
  ∀ s ∈ (e.apply db).companySubscriptions.rows, s.status = .active →
    (∀ r ∈ db.companySubscriptions.rows, r.subscriptionId = s.subscriptionId → r.status ≠ .active) →
    ∃ intent plan company, e.payment? db = some intent ∧ intent.planId = some s.planId ∧
      (e.apply db).subscriptionPlans.find? s.planId = some plan ∧
      (e.apply db).companies.find? s.companyId = some company ∧ company.plan = plan.name

/-- The PENDING subscription that a verification takes, and the onboarding that a job
creates a company for, are for the plan of the intent of the payment. -/
def AgreesOnPlan (db : Database) : PlanEvent → Prop
  | verifySubscription reference m => ∀ intent plan s,
      SubscriptionService.Verifies m.verifyTransaction reference db intent plan s →
      intent.planId = some s.planId
  | onboardingJob job ids m => ∀ onboarding payment plan,
      OnboardingWorker.Onboards m.verifyTransaction job ids db onboarding payment plan →
      payment.planId = some onboarding.planId
  | _ => True

variable {db : Database} {m : Moment}

theorem entitled_of_rows {e : PlanEvent}
    (h : ∀ s ∈ (e.apply db).companySubscriptions.rows, s.status = .active →
      s ∈ db.companySubscriptions.rows) : e.Entitled db := by
  intro s hs hactive hnew
  exact absurd hactive (hnew s (h s hs hactive) rfl)

theorem entitled_of_eq {e : PlanEvent}
    (h : (e.apply db).companySubscriptions = db.companySubscriptions) : e.Entitled db :=
  entitled_of_rows fun _ hs _ => h ▸ hs

end PlanEvent

namespace IntentProgram

/-- The statement leaves the subscriptions alone. -/
def KeepsSubscriptions (w : IntentWrite) : Prop :=
  ∀ m db, (w.execute m db).companySubscriptions = db.companySubscriptions

theorem onIntents_keepsSubscriptions : IntentWrite.OnIntents KeepsSubscriptions := by
  have hkept {w : IntentWrite} (hw : w.Collects fun _ => False) (hcollect : ∀ a, w ≠ .collect a) :
      KeepsSubscriptions w := by
    intro m db
    obtain ⟨intents, heq⟩ := execute_paymentIntents m db hw hcollect
    rw [heq]
  exact
    { create := fun _ _ => hkept trivial (by simp)
      transition := fun _ _ => hkept trivial (by simp)
      recordRecoveryFailure := fun _ _ => hkept trivial (by simp)
      expireStale := fun _ => hkept trivial (by simp)
      claim := fun _ => hkept trivial (by simp) }

theorem sends_initializeOnboardingPayment (intentId : String) :
    Program.Sends KeepsSubscriptions (initializeOnboardingPayment intentId).run := by
  have hopen (id : String) : Program.Sends KeepsSubscriptions (openTransaction id >>=
      fun response => do
        recordOnboardingReference intentId response.reference
        pure (PaymentLink.ofResponse response)).run :=
    sends_bind (sends_openTransaction onIntents_keepsSubscriptions id) fun _ =>
      sends_bind (sends_send (fun _ _ => rfl) _) fun _ => sends_pure _
  refine sends_bind (sends_select _) fun onboarding => ?_
  refine sends_bind (sends_reserve onIntents_keepsSubscriptions _) fun reservation => ?_
  split
  · exact sends_pure _
  · exact hopen _

end IntentProgram

namespace PlanEvent
variable {db : Database} {m : Moment}

/-- A call for a subscription adds a PENDING one at most. -/
theorem entitled_request (request : LinkRequest) : (PlanEvent.request request m).Entitled db := by
  have hsubscribes {p : IntentProgram PaymentLink} (hp : Program.Sends IntentWrite.Subscribes p.run) :
      ∀ s ∈ (p.complete m db).1.companySubscriptions.rows, s.status = .active →
        s ∈ db.companySubscriptions.rows := by
    refine Program.Sends.complete (P := fun db' => ∀ s ∈ db'.companySubscriptions.rows,
      s.status = .active → s ∈ db.companySubscriptions.rows) (fun d w hw hd => ?_) hp
      fun s hs _ => hs
    intro s hs hactive
    rcases activatesOnly_execute (w := .intent w) hw s hs hactive with hold | ⟨v, hv, -⟩
    · exact hd s hold hactive
    · cases hv
  refine entitled_of_rows ?_
  cases request with
  | initializeSubscription companyId planId email =>
    exact hsubscribes (IntentProgram.sends_initializeSubscription companyId planId email)
  | renewSubscription companyId planId =>
    exact hsubscribes (IntentProgram.sends_renewSubscription companyId planId)
  | initializeOnboardingPayment intentId =>
    have hkept := Program.Sends.complete (e := m)
      (P := fun db' : Database => db'.companySubscriptions = db.companySubscriptions)
      (fun d w hw hd => (hw m d).trans hd)
      (IntentProgram.sends_initializeOnboardingPayment intentId) rfl
    intro s hs _
    rw [← hkept]
    exact hs

theorem startOnboarding_eq_ok {data : CompanyRegister} {uuid : String} {db' : Database}
    (h : AuthService.startOnboarding data uuid db = .ok db') :
    ∃ onboardingIntents, db' = { db with onboardingIntents } := by
  rw [AuthService.startOnboarding] at h
  split at h
  · cases h
  · split at h
    · cases h
    · split at h
      · cases h
        exact ⟨_, rfl⟩
      · cases hcreate : createRow db.onboardingIntents
          { intentId := uuid, email := data.email, companyName := data.companyName
            adminName := data.adminName, planId := data.planId } ["intentId"] with
        | error err =>
          rw [hcreate] at h
          cases h
        | ok onboardings =>
          rw [hcreate] at h
          cases h
          exact ⟨_, rfl⟩

theorem startOnboarding_companySubscriptions (data : CompanyRegister) (uuid : String) :
    (committed db id (AuthService.startOnboarding data uuid db)).companySubscriptions =
      db.companySubscriptions := by
  refine committed_rule (P := fun db' => db'.companySubscriptions = db.companySubscriptions) rfl
    fun db' h => ?_
  obtain ⟨onboardingIntents, rfl⟩ := startOnboarding_eq_ok h
  rfl

theorem transitionIntent_companySubscriptions (intentId : String) (t : IntentTransition)
    (now : DateTime) : (committed db id (t.apply intentId now db)).companySubscriptions =
      db.companySubscriptions := by
  rw [IntentTransition.committed_apply]
  split <;> rfl

theorem find?_setPlan {companies : Table Company.companyId} {companyId : String} {company : Company}
    (h : companies.find? companyId = some company) (name : String) :
    (companies.update companyId (fun c => { c with plan := name }) (fun _ => rfl)).find? companyId =
      some { company with plan := name } := by
  rw [Table.find?_update, if_pos rfl, h]
  rfl

section verification
open SubscriptionService
variable {reference : String} {intent : PaymentIntent} {plan : SubscriptionPlan}
  {s : CompanySubscription}

/-- The one subscription that a verification makes ACTIVE. -/
theorem mem_activatedRows {companyId : Option String} {now : DateTime} {t : CompanySubscription}
    (hs : s ∈ db.companySubscriptions.rows)
    (ht : t ∈ (activatedRows companyId plan s now db.companySubscriptions).rows)
    (hactive : t.status = .active) :
    t ∈ db.companySubscriptions.rows ∨ t = activatedSubscription plan now s := by
  rcases Table.mem_update_iff.mp ht with ⟨ht, -⟩ | ⟨u, hu, hid, rfl⟩
  · rcases Table.mem_updateMany.mp ht with ⟨ht, -⟩ | ⟨u, -, -, rfl⟩
    · exact .inl ht
    · cases hactive
  · rcases Table.mem_updateMany.mp hu with ⟨hu, -⟩ | ⟨r, hr, hother, rfl⟩
    · rw [Table.key_injective hu hs hid]
      exact .inr rfl
    · have hne := (of_decide_eq_true hother).2.1
      exact absurd (congrArg some hid) hne

theorem activatedSubscription_mem {companyId : Option String} {now : DateTime}
    (hs : s ∈ db.companySubscriptions.rows) : activatedSubscription plan now s ∈
      (activatedRows companyId plan s now db.companySubscriptions).rows := by
  refine Table.mem_update_iff.mpr (.inr ⟨s, Table.mem_updateMany.mpr (.inl ⟨hs, ?_⟩), rfl, rfl⟩)
  simp

theorem findByReference_of_checkIntent {verifyPaystack : String → Except String Verification}
    (h : checkIntent verifyPaystack reference db = .ok intent) :
    PaymentIntentService.findByReference reference db = some intent := by
  rw [checkIntent] at h
  split at h
  · cases h
  · rename_i found hfound
    split at h
    · cases h
    · cases h
      exact hfound

theorem entitled_verifySubscription_iff : (PlanEvent.verifySubscription reference m).Entitled db ↔
    (PlanEvent.verifySubscription reference m).AgreesOnPlan db := by
  rcases verifySubscription_cases m.verifyTransaction reference m.now db with
    ⟨intent, plan, s, hverifies, ledger, -, hexecute⟩ | ⟨hnone, hexecute⟩
  · have happly : PlanEvent.apply db (.verifySubscription reference m) =
        { activated intent plan s m.now db with
          paymentIntents := succeededIntents intent m.now db, ledger } := hexecute
    have hpayment := findByReference_of_checkIntent hverifies.checked
    have hpending := List.find?_some hverifies.pending
    simp only [decide_eq_true_eq] at hpending
    obtain ⟨hcompany, hstatus⟩ := hpending
    have hs := List.mem_of_find?_eq_some hverifies.pending
    rw [Entitled, happly]
    constructor
    · intro h n p t hother
      have hn : n = intent := by
        have hchecked := hother.checked
        rw [hverifies.checked] at hchecked
        cases hchecked
        rfl
      have ht : t = s := by
        rw [hn] at hother
        have hfound := hother.pending
        rw [hverifies.pending] at hfound
        cases hfound
        rfl
      rw [hn, ht]
      have hlost : ∀ r ∈ db.companySubscriptions.rows, r.subscriptionId = s.subscriptionId →
          r.status ≠ .active := by
        intro r hr hid hactive
        rw [Table.key_injective hr hs hid, hstatus] at hactive
        cases hactive
      obtain ⟨found, _, _, hfound, hplan, -⟩ :=
        h _ (activatedSubscription_mem hs) rfl hlost
      have hfound : PaymentIntentService.findByReference reference db = some found := hfound
      rw [hpayment] at hfound
      cases hfound
      exact hplan
    · intro h t ht hactive hnew
      rcases mem_activatedRows hs ht hactive with hold | rfl
      · exact absurd hactive (hnew t hold rfl)
      · have hplanId : intent.planId = some s.planId := h intent plan s hverifies
        have hplan := hverifies.plan
        rw [hplanId, Option.bind_some] at hplan
        obtain ⟨company, hfound⟩ := Option.isSome_iff_exists.mp hverifies.company
        have hid : s.companyId = intent.companyId.getD "" := by
          rw [← hcompany]
          rfl
        exact ⟨intent, plan, { company with plan := plan.name }, hpayment, hplanId, hplan,
          (congrArg _ hid).trans (find?_setPlan hfound plan.name), rfl⟩
  · refine iff_of_true (entitled_of_eq (congrArg Database.companySubscriptions hexecute)) ?_
    exact fun n p t h => absurd h (hnone n p t)

end verification

section onboarding
open OnboardingWorker
variable {job : OnboardingJobData} {ids : OnboardingIds}

theorem findByReference_of_checkJob {verifyPaystack : String → Except String Verification}
    {onboarding : OnboardingIntent} {payment : PaymentIntent}
    (h : checkJob verifyPaystack job db = .ok (.paid onboarding payment)) :
    PaymentIntentService.findByReference job.reference db = some payment := by
  rw [checkJob] at h
  split at h
  · cases h
  · split at h
    · cases h
    · split at h
      · cases h
      · rename_i found hfound
        split at h
        · cases h
        · cases h
          exact hfound

theorem entitled_onboardingJob_iff : (PlanEvent.onboardingJob job ids m).Entitled db ↔
    (PlanEvent.onboardingJob job ids m).AgreesOnPlan db := by
  rcases process_cases m.verifyTransaction job ids m.now db with
    ⟨onboarding, payment, plan, honboards, companies, users, subscriptions, ledger, onboardings, -,
      hcompanies, hsubscriptions, hexecute⟩ | ⟨hnone, hkept⟩
  · have happly : PlanEvent.apply db (.onboardingJob job ids m) = _ := hexecute
    obtain ⟨hfree, hrows⟩ := Table.create_eq_some hsubscriptions
    have hpayment := findByReference_of_checkJob honboards.checked
    have hplanId := Table.find?_key honboards.plan
    rw [Entitled, happly]
    constructor
    · intro h o n p hother
      have hsame : n = payment ∧ o = onboarding := by
        have hchecked := hother.checked
        rw [honboards.checked] at hchecked
        cases hchecked
        exact ⟨rfl, rfl⟩
      rw [hsame.1, hsame.2]
      have hmem : onboardedSubscription ids plan m.now ∈ subscriptions.rows := by
        rw [hrows]
        exact List.mem_append_right _ (List.mem_singleton_self _)
      obtain ⟨found, _, _, hfound, hplan, -⟩ := h _ hmem rfl fun r hr hid => absurd hid
        (Table.find?_eq_none_iff.mp hfree r hr)
      have hfound : PaymentIntentService.findByReference job.reference db = some found := hfound
      rw [hpayment] at hfound
      cases hfound
      rw [hplan, ← hplanId]
      rfl
    · intro h s hs hactive hnew
      have hs : s ∈ subscriptions.rows := hs
      rw [hrows, List.mem_append, List.mem_singleton] at hs
      rcases hs with hold | rfl
      · exact absurd hactive (hnew s hold rfl)
      · have hagrees : payment.planId = some onboarding.planId := h onboarding payment plan honboards
        have hcreated := (Table.find?_create hcompanies ids.companyId).trans (if_pos rfl)
        refine ⟨payment, plan, _, hpayment, ?_, ?_, find?_setPlan hcreated plan.name, rfl⟩
        · rw [hagrees, ← hplanId]
          rfl
        · exact (congrArg _ hplanId).trans honboards.plan
  · refine iff_of_true (entitled_of_eq ?_) fun o n p h => absurd h (hnone o n p)
    rw [apply]
    rcases hkept with hkept | ⟨_, _, hkept⟩
    · rw [hkept]
    · rw [hkept]

end onboarding

/-- A payment activates the plan of its intent exactly when the rows agree on it. -/
theorem entitled_iff (e : PlanEvent) : e.Entitled db ↔ e.AgreesOnPlan db := by
  cases e with
  | request r m => exact iff_of_true (entitled_request r) trivial
  | startOnboarding data uuid =>
    exact iff_of_true (entitled_of_eq (startOnboarding_companySubscriptions data uuid)) trivial
  | transitionIntent intentId t now =>
    exact iff_of_true (entitled_of_eq (transitionIntent_companySubscriptions intentId t now)) trivial
  | expireStale now => exact iff_of_true (entitled_of_eq rfl) trivial
  | editPlans plans => exact iff_of_true (entitled_of_eq rfl) trivial
  | verifySubscription reference m => exact entitled_verifySubscription_iff
  | onboardingJob job ids m => exact entitled_onboardingJob_iff

end PlanEvent

/-- In every run of calls, payments, edits of plans and ends of intents, a payment
activates the plan of its intent, as the plan of the subscription and of the company,
in exactly the runs in which the pending subscription of each verification and the
onboarding of each job that creates a company are for the plan of the paid intent. -/
theorem paid_plan_activated_iff (db : Database) (events : List PlanEvent) :
    Along PlanEvent.apply (fun db e => e.Entitled db) db events ↔
      Along PlanEvent.apply (fun db e => e.AgreesOnPlan db) db events :=
  along_iff_along (I := fun _ => True) (fun _ e _ => e.entitled_iff) (fun _ _ _ _ => trivial) trivial

/-- Paystack refuses the first call, for one plan, and the company chooses another, and pays. -/
def refusedThenPaid : List PlanEvent :=
  [.request (.initializeSubscription "co" "basic" "owner@co") { now := 0, uuid := "first" },
    .request (.initializeSubscription "co" "premium" "owner@co") (openingMoment "second"),
    .verifySubscription "ref-second"
      { now := 5, verifyTransaction := fun _ => .ok { status := "success" } }]

/-- The payment for the second plan activates a subscription for the first. -/
theorem other_plan_activated :
    ¬ Along PlanEvent.apply (fun db e => e.Entitled db) choosingCompany refusedThenPaid := by
  intro h
  obtain ⟨-, -, hentitled, -⟩ := h
  obtain ⟨s, hs, hactive, hbasic⟩ :
      ∃ s ∈ (refusedThenPaid.foldl PlanEvent.apply choosingCompany).companySubscriptions.rows,
        s.status = .active ∧ s.planId = "basic" := by decide +kernel
  have hpending : ∀ r ∈ ((refusedThenPaid.take 2).foldl PlanEvent.apply
      choosingCompany).companySubscriptions.rows, r.status ≠ .active := by decide +kernel
  have hpremium : (PaymentIntentService.findByReference "ref-second"
      ((refusedThenPaid.take 2).foldl PlanEvent.apply choosingCompany)).map PaymentIntent.planId =
        some (some "premium") := by decide +kernel
  obtain ⟨intent, _, _, hpayment, hplanId, -⟩ :=
    hentitled s hs hactive fun r hr _ => hpending r hr
  have hpayment : PaymentIntentService.findByReference "ref-second"
      ((refusedThenPaid.take 2).foldl PlanEvent.apply choosingCompany) = some intent := hpayment
  rw [hpayment, Option.map_some, Option.some.injEq, hplanId, hbasic] at hpremium
  revert hpremium
  decide

end InstalFlow
