import InstalFlow.CustomerReceivable
import InstalFlow.IntentFlows
import InstalFlow.PlanActivations
import InstalFlow.Relational.Growth
import InstalFlow.SettlementSuccess
import InstalFlow.SubscriptionCalls

/-!
# Movements of money

The steps along which amounts travel: contracts schedule installments, intents are
reserved and opened at Paystack, payments are recorded, payouts requested, settlements
generated, and both transferred. Beside the database a run keeps what Paystack was asked
for each movement and what was posted for it.
-/

namespace InstalFlow
open Relational Transition

/-- The payment of an intent, or the transfer of a payout or a settlement. -/
inductive Movement
  | charge (intentId : String)
  | transfer (k : TransferKey)
deriving DecidableEq

/-- What the calls for a payment link reserve an intent for. -/
inductive ChargeRequest
  | installment (installmentId customerId : String)
  | onboarding (intentId : String)
  | subscription (companyId planId email : String)

/-- The parameters as the three calls build them. -/
def ChargeRequest.params (now : DateTime) (db : Database) :
    ChargeRequest → Except AppError ReserveIntentParams
  | installment installmentId customerId => do
    let i ← InstallmentService.assertMayPay installmentId customerId db
    let _ ← InstallmentService.assertInstallmentIsPayable i.installment now db
    let (customer, product) ← InstallmentService.assertPayer i
    return { type := .installment, amount := i.installment.amount, customerId := customer.userId
             installmentId := i.installment.installmentId, planId := product.productId
             initializationPayload := { email := customer.email } }
  | onboarding intentId => do
    let (onboardingIntent, plan) ← SubscriptionService.findOnboarding intentId db
    return { type := .onboarding, amount := SubscriptionService.chargedPrice plan
             onboardingId := intentId, planId := onboardingIntent.planId
             initializationPayload := { email := onboardingIntent.email } }
  | subscription companyId planId email => do
    let plan ← SubscriptionService.findActivePlan planId db
    return { type := .subscription, amount := SubscriptionService.chargedPrice plan
             companyId := companyId, planId := plan.planId, initializationPayload := { email } }

section amounts

/-- What of an intent is fixed by its reservation. -/
def PaymentIntent.terms (n : PaymentIntent) : ℚ × Option String := (n.amount, n.installmentId)

def Database.chargeTerms (db : Database) : String → Option (ℚ × Option String) :=
  db.paymentIntents.view PaymentIntent.terms

def Database.installmentAmount (db : Database) : String → Option ℚ :=
  db.installments.view Installment.amount

/-- The amount of the row that a movement is for. -/
def Database.amount? (db : Database) : Movement → Option ℚ
  | .charge intentId => (db.chargeTerms intentId).map Prod.fst
  | .transfer k => (db.transfer? k).map Prod.snd

structure Database.SameAmounts (db db' : Database) : Prop where
  installments : db'.installmentAmount = db.installmentAmount
  charges : db'.chargeTerms = db.chargeTerms
  transfers : db'.transfer? = db.transfer?
  commissions : db'.commissionTerms = db.commissionTerms

end amounts

/-- `elsewhere` is everything that leaves the amounts as they are. -/
inductive MoneyStep
  | approveApplication (applicationId reviewerId : String) (m : KycMoment)
  | contract (op : ContractOperation)
  | reserve (request : ChargeRequest) (m : Moment)
  | initializePaystack (provider : PaymentIntentService.InitializeTransaction) (intentId : String)
      (markFailedOnError : Bool) (now : DateTime)
  | statement (a : IntentStatement) (now : DateTime)
  | verifySubscription (verifyPaystack : String → Except String Verification)
      (reference : String) (now : DateTime)
  | onboardingJob (verifyPaystack : String → Except String Verification)
      (job : OnboardingJobData) (ids : OnboardingIds) (now : DateTime)
  | payout (op : Operation)
  | settlement (op : SettlementOp)
  | elsewhere (f : Database → Database) (hf : ∀ db : Database, db.SameAmounts (f db))

theorem toOption_eq_some {ε α : Type} {x : Except ε α} {a : α} :
    x.toOption = some a ↔ x = .ok a := by
  cases x <;> simp [Except.toOption]

namespace PaymentIntentService

/-- The intent for which a transaction is asked for. -/
def opens? (intentId : String) (db : Database) : Option PaymentIntent :=
  (db.paymentIntents.find? intentId).filter fun n =>
    n.initializationPayload.any fun payload => !isBlank payload.email

/-- Of the provider's answers, the one to the amount of the intent is looked at. -/
theorem initializePaystack_congr {provider answer : InitializeTransaction} {intentId : String}
    {markFailedOnError : Bool} {now : DateTime} {db : Database}
    (h : ∀ n ∈ opens? intentId db, ∀ email,
      answer email (n.amount * 100) = provider email (n.amount * 100)) :
    initializePaystack answer intentId markFailedOnError now db =
      initializePaystack provider intentId markFailedOnError now db := by
  rw [initializePaystack, initializePaystack]
  split
  · rfl
  · rename_i n hn
    split
    · rfl
    · rename_i payload hpayload
      split
      · rfl
      · rename_i hemail
        have hopens : opens? intentId db = some n := by
          refine Option.filter_eq_some_iff.mpr ⟨hn, ?_⟩
          simp [hpayload, hemail]
        simp only [h n hopens]

end PaymentIntentService

namespace TransferWorker

/-- The payout whose transfer a job requests from Paystack. -/
def requested? (paystack : Paystack) (payoutId : String) (db : Database) :
    Option CommissionPayoutRequest :=
  (db.commissionPayoutRequests.find? payoutId).filter fun payout =>
    payout.status = .transferInitiated ∧ payout.transferCode = none ∧
      (payout.marketerBankAccountId.bind db.marketerBankAccounts.find?).any
        fun bank => (resolveRecipient paystack bank db).isOk

theorem process_congr {paystack : Paystack} {payoutId : String} {db : Database}
    {answer : ℚ → Option String → String → String → Except String (Option String)}
    (h : ∀ p ∈ requested? paystack payoutId db,
      answer (p.amount * 100) = paystack.initiateTransfer (p.amount * 100)) :
    process { paystack with initiateTransfer := answer } payoutId db =
      process paystack payoutId db := by
  rw [process, process]
  split
  · rfl
  · rename_i payout hpayout
    split
    · rfl
    · rename_i hstatus
      split
      · rfl
      · rename_i bank hbank
        have hrecipient : resolveRecipient { paystack with initiateTransfer := answer } bank db =
            resolveRecipient paystack bank db := rfl
        rw [hrecipient]
        split
        · rfl
        · rename_i recipientCode db₁ hresolved
          split
          · rfl
          · rename_i hcode
            have hrequested : requested? paystack payoutId db = some payout := by
              refine Option.filter_eq_some_iff.mpr ⟨hpayout, decide_eq_true ?_⟩
              refine ⟨not_not.mp hstatus, by simpa using hcode, ?_⟩
              rw [hbank, Option.any_some, hresolved]
              rfl
            simp only [h payout hrequested]

end TransferWorker

namespace SubscriptionService

/-- The intent and the plan of a verification that goes through. -/
def verified? (verifyPaystack : String → Except String Verification) (reference : String)
    (db : Database) : Option (PaymentIntent × SubscriptionPlan) := do
  let intent ← (checkIntent verifyPaystack reference db).toOption
  let plan ← intent.planId.bind db.subscriptionPlans.find?
  let _ ← pendingOf intent.companyId db
  if (db.companies.find? (intent.companyId.getD "")).isSome ∧ !intent.status.terminal then
    some (intent, plan)
  else none

theorem verified?_eq_some {verifyPaystack : String → Except String Verification}
    {reference : String} {db : Database} {intent : PaymentIntent} {plan : SubscriptionPlan} :
    verified? verifyPaystack reference db = some (intent, plan) ↔
      ∃ s, Verifies verifyPaystack reference db intent plan s := by
  constructor
  · intro h
    obtain ⟨n, hn, h⟩ := Option.bind_eq_some_iff.mp h
    obtain ⟨p, hp, h⟩ := Option.bind_eq_some_iff.mp h
    obtain ⟨s, hs, h⟩ := Option.bind_eq_some_iff.mp h
    split at h
    · rename_i hguard
      cases h
      exact ⟨s, toOption_eq_some.mp hn, hp, hs, hguard.1, by simpa using hguard.2⟩
    · cases h
  · intro h
    obtain ⟨s, h⟩ := h
    simp [verified?, h.checked, h.plan, h.pending, h.company, h.unmarked, Except.toOption]

end SubscriptionService

namespace OnboardingWorker

/-- The intent and the plan of a job that creates a company. -/
def onboarded? (verifyPaystack : String → Except String Verification) (job : OnboardingJobData)
    (ids : OnboardingIds) (db : Database) : Option (PaymentIntent × SubscriptionPlan) :=
  match checkJob verifyPaystack job db with
  | .ok (.paid onboarding payment) =>
    ((db.subscriptionPlans.find? onboarding.planId).filter fun _ =>
      !db.users.rows.any (fun u => u.email = onboarding.email) ∧
        (db.companies.find? ids.companyId).isNone ∧ (db.users.find? ids.userId).isNone ∧
        (db.companySubscriptions.find? ids.subscriptionId).isNone).map (payment, ·)
  | _ => none

theorem onboarded?_eq_some {verifyPaystack : String → Except String Verification}
    {job : OnboardingJobData} {ids : OnboardingIds} {db : Database} {payment : PaymentIntent}
    {plan : SubscriptionPlan} : onboarded? verifyPaystack job ids db = some (payment, plan) ↔
      ∃ onboarding, Onboards verifyPaystack job ids db onboarding payment plan := by
  constructor
  · intro h
    rw [onboarded?] at h
    split at h
    · rename_i onboarding n hcheck
      obtain ⟨p, hp, hpair⟩ := Option.map_eq_some_iff.mp h
      cases hpair
      obtain ⟨hfind, hguard⟩ := Option.filter_eq_some_iff.mp hp
      simp only [Option.isNone_iff_eq_none, decide_eq_true_eq, Bool.not_eq_true'] at hguard
      obtain ⟨hnew, hcompany, huser, hsubscription⟩ := hguard
      exact ⟨onboarding, hcheck, hnew, hcompany, huser, hfind, hsubscription⟩
    · cases h
  · intro h
    obtain ⟨onboarding, h⟩ := h
    simp [onboarded?, h.checked, h.plan, h.newUser, h.companyId, h.userId, h.subscriptionId]

end OnboardingWorker

namespace MoneyStep

def apply (db : Database) : MoneyStep → Database
  | approveApplication applicationId reviewerId m =>
    committed db Prod.snd (KycService.approveApplication applicationId reviewerId m db)
  | contract op => op.apply db
  | reserve request m =>
    match request.params m.now db with
    | .error _ => db
    | .ok params => ((IntentProgram.reserve params).complete m db).1
  | initializePaystack provider intentId markFailedOnError now =>
    (PaymentIntentService.initializePaystack provider intentId markFailedOnError now db).1
  | statement a now => a.execute now db
  | verifySubscription verifyPaystack reference now =>
    (SubscriptionService.verifySubscription verifyPaystack reference now db).1
  | onboardingJob verifyPaystack job ids now =>
    (OnboardingWorker.process verifyPaystack job ids now db).1
  | payout op => op.apply db
  | settlement op => op.apply db
  | elsewhere f _ => f db

/-- The `amountKobo` that a step sends to Paystack, and the movement it is for. -/
def sent? (db : Database) : MoneyStep → Option (Movement × ℚ)
  | initializePaystack _ intentId _ _ =>
    (PaymentIntentService.opens? intentId db).map fun n => (.charge n.intentId, n.amount * 100)
  | payout (.transferJob paystack payoutId) =>
    (TransferWorker.requested? paystack payoutId db).map fun p =>
      (.transfer (.payout p.payoutId), p.amount * 100)
  | settlement (.transferJob paystack settlementId _) =>
    (MerchantSettlementTransferWorker.requested? paystack settlementId db).map fun s =>
      (.transfer (.settlement s.settlementId), s.amount * 100)
  | _ => none

/-- The transaction that a step posts for a movement. -/
def posting? (db : Database) : MoneyStep → Option (Movement × LedgerTransaction)
  | verifySubscription verifyPaystack reference _ =>
    (SubscriptionService.verified? verifyPaystack reference db).map fun q =>
      (.charge q.1.intentId, SubscriptionService.revenueOf reference q.1 q.2)
  | onboardingJob verifyPaystack job ids _ =>
    (OnboardingWorker.onboarded? verifyPaystack job ids db).map fun q =>
      (.charge q.1.intentId, OnboardingWorker.onboardingRevenue ids job.reference q.2)
  | payout (.processPayment verifyPaystack job paymentId commissionId now) =>
    (PaymentWorker.recorded? verifyPaystack job paymentId commissionId now db).bind fun i =>
      (PaymentIntentService.findByReference job.reference db).map fun n =>
        (.charge n.intentId, PaymentWorker.paymentPosting i job.reference)
  | payout (.transferJob paystack payoutId) =>
    (TransferWorker.initiated? paystack payoutId db).map fun p =>
      (.transfer (.payout p.payoutId), TransferWorker.initPosting p)
  | payout (.webhook event payload _) =>
    (event.target? payload db).map fun p =>
      (.transfer (.payout p.payoutId), event.handler.posting p)
  | settlement (.transferJob paystack settlementId _) =>
    (MerchantSettlementTransferWorker.initiated? paystack settlementId db).map fun s =>
      (.transfer (.settlement s.settlementId), MerchantSettlementTransferWorker.initPosting s)
  | settlement (.webhook event settlementId _ _) =>
    (event.settlementHandler.target? settlementId db).map fun s =>
      (.transfer (.settlement s.settlementId), event.settlementHandler.posting s)
  | _ => none

end MoneyStep

/-- What a transaction books for the movement: for a payment the debit of the clearing
account, which the shares of the marketer and the merchant are taken from. -/
def Movement.booked (data : LedgerTransaction) : Movement → ℚ
  | charge _ => LedgerService.changeOf "PAYSTACK_CLEARING" .asset data.entries
  | transfer _ => LedgerService.totalDebits data.entries

structure MoneyState where
  db : Database
  sent : List (Movement × ℚ) := []
  booked : List (Movement × ℚ) := []

namespace MoneyState

def step (s : MoneyState) (e : MoneyStep) : MoneyState where
  db := e.apply s.db
  sent := s.sent ++ (e.sent? s.db).toList
  booked := s.booked ++ ((e.posting? s.db).map fun q => (q.1, q.1.booked q.2)).toList

end MoneyState

def PositiveInteger (x : ℚ) : Prop := ∃ n : ℕ, 0 < n ∧ x = n

/-- What Paystack was asked for is a positive whole number of kobo, and a hundred times
what was posted for the same movement. -/
def MoneyState.MovesBooked (s : MoneyState) : Prop :=
  ∀ p ∈ s.sent, PositiveInteger p.2 ∧ ∀ q ∈ s.booked, q.1 = p.1 → p.2 = 100 * q.2

theorem positiveInteger_iff {x : ℚ} : PositiveInteger x ↔ 0 < x ∧ x.den = 1 := by
  constructor
  · intro h
    obtain ⟨n, hn, rfl⟩ := h
    exact ⟨mod_cast hn, Rat.den_natCast n⟩
  · intro h
    obtain ⟨hpos, hden⟩ := h
    have hnum : (x.num : ℚ) = x := Rat.den_eq_one_iff x |>.mp hden
    have hnum_pos : 0 < x.num := Rat.num_pos.mpr hpos
    refine ⟨x.num.toNat, by omega, ?_⟩
    rw [← hnum]
    exact_mod_cast (Int.toNat_of_nonneg hnum_pos.le).symm

instance : DecidablePred PositiveInteger := fun _ => decidable_of_iff _ positiveInteger_iff.symm

instance (s : MoneyState) : Decidable s.MovesBooked :=
  inferInstanceAs (Decidable (∀ p ∈ s.sent, _ ∧ ∀ q ∈ s.booked, _ → _))

end InstalFlow
