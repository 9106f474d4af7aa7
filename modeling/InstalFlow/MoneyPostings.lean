import InstalFlow.MoneyMovements

/-!
# What the steps post and what they leave alone

The frames of the operations on settlements and on contracts, and the ledger after a
step: a step that moves money posts the transaction that the run keeps for it.
-/

namespace InstalFlow
open Relational CommissionService

namespace SettlementOp
open MerchantSettlementService CompanyBankAccountService

/-- Transfer jobs and webhooks post to the ledger. -/
def posts : SettlementOp → Bool
  | transferJob .. | webhook .. => true
  | _ => false

/-- The operations on settlements write their own tables. -/
structure Frame (op : SettlementOp) (db db' : Database) : Prop where
  tables : ∃ companyBankAccounts merchantSettlementRequests merchantSettlementLines
    merchantSettlementAuditTrail ledger, db' = { db with
      companyBankAccounts, merchantSettlementRequests, merchantSettlementLines
      merchantSettlementAuditTrail, ledger }
  ledger : op.posts = false → db'.ledger = db.ledger

theorem frame (db : Database) (op : SettlementOp) : op.Frame db (op.apply db) := by
  have hcommitted {α : Type} {state : α → Database} {r : Except AppError α}
      (hr : ∀ a, r = .ok a → op.Frame db (state a)) : op.Frame db (committed db state r) :=
    committed_rule (P := op.Frame db) ⟨⟨_, _, _, _, _, rfl⟩, fun _ => rfl⟩ hr
  cases op with
  | addBankAccount resolveAccount companyId accountId data =>
    refine hcommitted fun res h => ?_
    rw [CompanyBankAccountService.addBankAccount] at h
    split at h
    · cases h
    · split at h
      · cases h
      · simp only at h
        split at h
        · cases h
        · cases h
          split
          · exact ⟨⟨_, _, _, _, _, rfl⟩, fun _ => rfl⟩
          · exact ⟨⟨_, _, _, _, _, rfl⟩, fun _ => rfl⟩
  | switchPrimaryBankAccount companyId accountId =>
    refine hcommitted fun res h => ?_
    rw [CompanyBankAccountService.switchPrimaryBankAccount] at h
    split at h
    · cases h
    · split at h
      · cases h
        exact ⟨⟨_, _, _, _, _, rfl⟩, fun _ => rfl⟩
      · cases h
        exact ⟨⟨_, _, _, _, _, rfl⟩, fun _ => rfl⟩
  | removeBankAccount companyId accountId =>
    refine hcommitted fun res h => ?_
    obtain ⟨rfl, -⟩ := removeBankAccount_eq_ok h
    exact ⟨⟨_, _, _, _, _, rfl⟩, fun _ => rfl⟩
  | generateForCompany companyId settlementId now =>
    refine hcommitted fun res h => ?_
    rw [MerchantSettlementService.generateForCompany] at h
    split at h
    · cases h
      exact ⟨⟨_, _, _, _, _, rfl⟩, fun _ => rfl⟩
    · split at h
      · cases h
      · rename_i hcreate
        cases h
        obtain ⟨settlements, lines, trail, rfl, -⟩ := createSettlement_eq_ok hcreate
        exact ⟨⟨_, _, _, _, _, rfl⟩, fun _ => rfl⟩
  | queueEligibleTransfers now =>
    have hqueue (ss : List MerchantSettlementRequest) (db : Database) :
        ∃ merchantSettlementRequests merchantSettlementAuditTrail,
          ss.foldl (queueTransfer now) db =
            { db with merchantSettlementRequests, merchantSettlementAuditTrail } := by
      induction ss generalizing db with
      | nil => exact ⟨_, _, rfl⟩
      | cons s ss ih =>
        obtain ⟨settlements, trail, hdb⟩ := ih (queueTransfer now db s)
        exact ⟨settlements, trail, hdb⟩
    obtain ⟨settlements, trail, hdb⟩ :=
      hqueue (db.merchantSettlementRequests.rows.filter (eligible db)) db
    rw [apply, MerchantSettlementService.queueEligibleTransfers, hdb]
    exact ⟨⟨_, _, _, _, _, rfl⟩, fun _ => rfl⟩
  | retryTransfer settlementId superAdminUserId now =>
    refine hcommitted fun res h => ?_
    rw [MerchantSettlementService.retryTransfer] at h
    split at h
    · cases h
    · split at h
      · cases h
      · split at h
        · cases h
        · cases h
          exact ⟨⟨_, _, _, _, _, rfl⟩, fun _ => rfl⟩
  | transferJob paystack settlementId now =>
    rw [apply, MerchantSettlementTransferWorker.process]
    split
    · exact ⟨⟨_, _, _, _, _, rfl⟩, fun _ => rfl⟩
    · split
      · exact ⟨⟨_, _, _, _, _, rfl⟩, fun _ => rfl⟩
      · split
        · exact ⟨⟨_, _, _, _, _, rfl⟩, fun _ => rfl⟩
        · split
          · exact ⟨⟨_, _, _, _, _, rfl⟩, fun _ => rfl⟩
          · rename_i hrecipient
            obtain ⟨banks, rfl⟩ :=
              MerchantSettlementTransferWorker.resolveRecipient_eq_ok hrecipient
            split
            · exact ⟨⟨_, _, _, _, _, rfl⟩, fun _ => rfl⟩
            · split
              · exact ⟨⟨_, _, _, _, _, rfl⟩, fun _ => rfl⟩
              · split
                · exact ⟨⟨_, _, _, _, _, rfl⟩, fun _ => rfl⟩
                · rename_i hrecord
                  obtain ⟨ledger, -, rfl⟩ := post_eq_ok hrecord
                  exact ⟨⟨_, _, _, _, _, rfl⟩, fun hposts => by cases hposts⟩
  | jobFailed job message now =>
    rw [apply, MerchantSettlementTransferWorker.onFailed]
    split
    · split
      · exact ⟨⟨_, _, _, _, _, rfl⟩, fun _ => rfl⟩
      · exact ⟨⟨_, _, _, _, _, rfl⟩, fun _ => rfl⟩
    · exact ⟨⟨_, _, _, _, _, rfl⟩, fun _ => rfl⟩
  | webhook event settlementId payload now =>
    refine hcommitted fun res h => ?_
    rw [SettlementHandler.handle] at h
    split at h
    · cases h
      exact ⟨⟨_, _, _, _, _, rfl⟩, fun _ => rfl⟩
    · split at h
      · cases h
        exact ⟨⟨_, _, _, _, _, rfl⟩, fun _ => rfl⟩
      · obtain ⟨ledger, -, rfl⟩ := post_eq_ok h
        rw [SettlementHandler.foldl_audit]
        exact ⟨⟨_, _, _, _, _, rfl⟩, fun hposts => by cases hposts⟩

end SettlementOp

/-- Intents are written, and the amounts of none of them. -/
def Database.MarksIntents (db db' : Database) : Prop :=
  ∃ paymentIntents, db' = { db with paymentIntents } ∧
    paymentIntents.view PaymentIntent.terms = db.chargeTerms

namespace Database.MarksIntents
variable {db db₁ db₂ : Database}

theorem refl (db : Database) : db.MarksIntents db := ⟨_, rfl, rfl⟩

theorem trans (h : db.MarksIntents db₁) (h' : db₁.MarksIntents db₂) : db.MarksIntents db₂ := by
  obtain ⟨intents, rfl, hterms⟩ := h
  obtain ⟨intents', rfl, hterms'⟩ := h'
  exact ⟨intents', rfl, hterms'.trans hterms⟩

theorem updateMany (db : Database) (p : PaymentIntent → Bool) {f : PaymentIntent → PaymentIntent}
    (hf : ∀ n, (f n).intentId = n.intentId) (hterms : ∀ n, (f n).terms = n.terms) :
    db.MarksIntents { db with paymentIntents := db.paymentIntents.updateMany p f hf } :=
  ⟨_, rfl, Table.view_updateMany db.paymentIntents p hf hterms⟩

theorem execute (db : Database) (a : IntentStatement) (now : DateTime) :
    db.MarksIntents (a.execute now db) := by
  cases a with
  | markInitialized intentId response =>
    rw [IntentStatement.execute, PaymentIntentService.committed_markInitialized]
    split
    · exact refl db
    · exact updateMany db _ _ fun _ => rfl
  | markPending intentId =>
    rw [IntentStatement.execute, PaymentIntentService.markPending,
      PaymentIntentService.committed_transitionStatus]
    exact updateMany db _ _ fun _ => rfl
  | markFailed intentId reason =>
    rw [IntentStatement.execute, PaymentIntentService.markFailed,
      PaymentIntentService.committed_transitionStatus]
    exact updateMany db _ _ fun _ => rfl
  | markExpired intentId =>
    rw [IntentStatement.execute, PaymentIntentService.markExpired,
      PaymentIntentService.committed_transitionStatus]
    exact updateMany db _ _ fun _ => rfl
  | cancel intentId reason =>
    rw [IntentStatement.execute, PaymentIntentService.cancel,
      PaymentIntentService.committed_transitionStatus]
    exact updateMany db _ _ fun _ => rfl
  | recordRecoveryFailure | claimStaleIntents | expireStale =>
    exact updateMany db _ _ fun _ => rfl

theorem of_reaches (h : Transition.Reaches IntentStatement.step db db₁) : db.MarksIntents db₁ := by
  obtain ⟨as, rfl⟩ := h
  induction as generalizing db with
  | nil => exact refl db
  | cons a as ih => exact (execute db a.1 a.2).trans (ih)

end Database.MarksIntents

namespace KycService

/-- An approval writes no payment, no commission and no posting, and the installments
that it adds are scheduled for the contract of its application. -/
theorem approveApplication_frame {applicationId reviewerId : String} {m : KycMoment}
    {db : Database} {result : KycApplicationStatus × Database}
    (h : approveApplication applicationId reviewerId m db = .ok result) :
    (∃ users kycApplications onboardingSessions installments financingContracts referrals
      kycDocumentAssets kycAuditTrail, result.2 = { db with
        users, kycApplications, onboardingSessions, installments, financingContracts, referrals
        kycDocumentAssets, kycAuditTrail }) ∧
    (result.2.installments = db.installments ∨ result.1 = .approved ∧ ∃ contract schedule,
      contractOf applicationId db = some contract ∧ scheduleOf contract m.now = .ok schedule ∧
      result.2.installments.rows = db.installments.rows ++
        schedule.map fun row => row.row (m.installmentId row.sequence)) := by
  obtain ⟨r, signature, hloaded, -, -, hcommit⟩ := approveApplication_eq_ok h
  have hid := Table.find?_key hloaded.application
  cases signature with
  | marketer =>
    cases hcommit
    exact ⟨⟨_, _, _, _, _, _, _, _, rfl⟩, .inl rfl⟩
  | admin =>
    obtain ⟨application, happ, ⟨-, rfl⟩ | ⟨-, contract, hcontract, hactivates, happroved⟩⟩ :=
      recordAdminApproval_eq_ok hcommit
    · exact ⟨⟨_, _, _, _, _, _, _, _, rfl⟩, .inl rfl⟩
    · rw [hid] at hcontract
      obtain ⟨referrals, assets, helsewhere⟩ := hactivates.elsewhere
      obtain ⟨schedule, hschedule, hrows, -⟩ := hactivates.installments
      exact ⟨⟨_, _, _, _, _, _, _, _, helsewhere⟩,
        .inr ⟨happroved, contract, schedule, hcontract, hschedule, hrows⟩⟩

end KycService

namespace ContractOperation

/-- The operations on contracts write contracts, installments and postings. -/
theorem frame (db : Database) (op : ContractOperation) :
    ∃ financingContracts installments ledger,
      op.apply db = { db with financingContracts, installments, ledger } := by
  cases op with
  | pendingToDue | dueToOverdue => exact ⟨_, _, _, rfl⟩
  | markDefaulted contractId late =>
    rw [apply, InstalFlow.markDefaulted]
    split
    · exact ⟨_, _, _, rfl⟩
    · exact ⟨_, _, _, rfl⟩
  | restructure offset contractId adminUserId newTerms installmentId now =>
    rw [apply]
    cases h : FinancingService.restructureContract offset contractId adminUserId newTerms
      installmentId now db with
    | error err => exact ⟨_, _, _, rfl⟩
    | ok result =>
      obtain ⟨terms, o, schedule, -, hrestructures⟩ := FinancingService.restructureContract_eq_ok h
      exact ⟨_, _, _, hrestructures.closes.elsewhere⟩
  | writeOff contractId companyUserId reason now =>
    rw [apply]
    cases h : FinancingService.writeOffContract contractId companyUserId reason now db with
    | error err => exact ⟨_, _, _, rfl⟩
    | ok result =>
      obtain ⟨o, -, hcloses⟩ := FinancingService.writeOffContract_eq_ok h
      exact ⟨_, _, _, hcloses.elsewhere⟩

end ContractOperation

namespace ChargeRequest

theorem params_key {request : ChargeRequest} {now : DateTime} {db : Database}
    {params : ReserveIntentParams} (h : request.params now db = .ok params) :
    params.clientIdempotencyKey = none := by
  cases request with
  | installment installmentId customerId =>
    obtain ⟨i, -, h⟩ := bind_eq_ok.mp h
    obtain ⟨_, -, h⟩ := bind_eq_ok.mp h
    obtain ⟨payer, -, h⟩ := bind_eq_ok.mp h
    cases h
    rfl
  | onboarding intentId =>
    obtain ⟨found, -, h⟩ := bind_eq_ok.mp h
    cases h
    rfl
  | subscription companyId planId email =>
    obtain ⟨plan, -, h⟩ := bind_eq_ok.mp h
    cases h
    rfl

end ChargeRequest

namespace MoneyStep
variable {db : Database}

/-- A reservation creates the intent of its parameters or writes nothing. -/
theorem apply_reserve (request : ChargeRequest) (m : Moment) (db : Database) :
    (∃ params intents, request.params m.now db = .ok params ∧
      db.paymentIntents.create (IntentProgram.reservedIntent params m) = some intents ∧
      (reserve request m).apply db = { db with paymentIntents := intents }) ∨
    (reserve request m).apply db = db := by
  rw [apply]
  cases hparams : request.params m.now db with
  | error err => exact .inr rfl
  | ok params =>
    rcases IntentProgram.reserve_cases (request.params_key hparams) m db with
      ⟨intents, hcreate, -, hreserve⟩ | ⟨existing, -, hreserve⟩ | ⟨err, hreserve⟩
    · exact .inl ⟨params, intents, rfl, hcreate, congrArg Prod.fst hreserve⟩
    · exact .inr (congrArg Prod.fst hreserve)
    · exact .inr (congrArg Prod.fst hreserve)

/-- The steps that post to the ledger what they move, or nothing. -/
def movesMoney : MoneyStep → Bool
  | contract _ | elsewhere _ _ => false
  | _ => true

theorem settlement_posted (op : SettlementOp) (db : Database) :
    Operation.Posted db.ledger (op.apply db).ledger
      (((settlement op).posting? db).map Prod.snd) := by
  have hframe := (op.frame db).ledger
  cases op with
  | transferJob paystack settlementId now =>
    rw [posting?]
    cases h : MerchantSettlementTransferWorker.initiated? paystack settlementId db with
    | none => exact MerchantSettlementTransferWorker.process_not_initiated h
    | some s => exact MerchantSettlementTransferWorker.process_initiated h
  | webhook event settlementId payload now =>
    obtain ⟨db', hdb⟩ := event.settlementHandler_isOk settlementId payload now db
    rw [SettlementOp.apply, hdb, posting?]
    rcases SettlementHandler.handle_eq_ok hdb event.settlementHandler_terms with
      ⟨-, ⟨ht, rfl⟩ | ⟨s, ht, hledger⟩⟩
    · rw [ht]
      rfl
    · rw [ht]
      exact hledger
  | addBankAccount | switchPrimaryBankAccount | removeBankAccount | generateForCompany
    | queueEligibleTransfers | retryTransfer | jobFailed => exact hframe rfl

/-- A payment that is recorded is for an intent with the reference of its job. -/
theorem findByReference_of_recorded {verifyPaystack : String → Except String Verification}
    {job : PaymentJobData} {paymentId commissionId : String} {now : DateTime}
    {i : LoadedInstallment}
    (h : PaymentWorker.recorded? verifyPaystack job paymentId commissionId now db = some i) :
    ∃ n, PaymentIntentService.findByReference job.reference db = some n := by
  rw [PaymentWorker.recorded?] at h
  split at h
  · rename_i hprocess
    rw [PaymentWorker.process] at hprocess
    split at hprocess
    · cases hprocess
    · split at hprocess
      · split at hprocess
        · cases hprocess
        · split at hprocess
          · cases hprocess
          · cases hprocess
      · split at hprocess
        · cases hprocess
        · rename_i n hn
          exact ⟨n, hn⟩
  · cases h

theorem payout_posting? (op : Operation) (db : Database) :
    ((payout op).posting? db).map Prod.snd = op.posting? db := by
  cases op with
  | processPayment verifyPaystack job paymentId commissionId now =>
    rw [posting?, Operation.posting?]
    cases h : PaymentWorker.recorded? verifyPaystack job paymentId commissionId now db with
    | none => rfl
    | some i =>
      obtain ⟨n, hn⟩ := findByReference_of_recorded h
      rw [Option.bind_some, hn]
      rfl
  | transferJob paystack payoutId =>
    rw [posting?, Operation.posting?, Option.map_map]
    rfl
  | webhook event payload now =>
    rw [posting?, Operation.posting?, Option.map_map]
    rfl
  | requestPayout | adminApprovePayout | companyApprovePayout | initiateTransfer
    | transferJobFailed => rfl

/-- A step that moves money posts what the run keeps for it. -/
theorem apply_posted (db : Database) {e : MoneyStep} (he : e.movesMoney = true) :
    Operation.Posted db.ledger (e.apply db).ledger ((e.posting? db).map Prod.snd) := by
  cases e with
  | approveApplication applicationId reviewerId m =>
    refine committed_rule (P := fun db' => db'.ledger = db.ledger) rfl fun result h => ?_
    obtain ⟨⟨_, _, _, _, _, _, _, _, hdb⟩, -⟩ := KycService.approveApplication_frame h
    rw [hdb]
  | reserve request m =>
    rcases apply_reserve request m db with ⟨params, intents, -, -, hdb⟩ | hdb
    · rw [hdb]
      rfl
    · rw [hdb]
      rfl
  | initializePaystack provider intentId markFailedOnError now =>
    have hmarks : db.MarksIntents
        (PaymentIntentService.initializePaystack provider intentId markFailedOnError now db).1 :=
      .of_reaches (initializePaystack_reaches provider intentId markFailedOnError now)
    obtain ⟨intents, hdb, -⟩ := hmarks
    rw [apply, hdb]
    rfl
  | statement a now =>
    obtain ⟨intents, hdb, -⟩ := Database.MarksIntents.execute db a now
    rw [apply, hdb]
    rfl
  | verifySubscription verifyPaystack reference now =>
    rcases SubscriptionService.verifySubscription_cases verifyPaystack reference now db with
      ⟨intent, plan, s, hverifies, ledger, hrecord, hdb⟩ | ⟨hnone, hdb⟩
    · rw [posting?, SubscriptionService.verified?_eq_some.mpr ⟨s, hverifies⟩, apply, hdb]
      exact hrecord
    · cases hverified : SubscriptionService.verified? verifyPaystack reference db with
      | none =>
        rw [posting?, hverified, apply, hdb]
        rfl
      | some q =>
        obtain ⟨s, hverifies⟩ := SubscriptionService.verified?_eq_some.mp hverified
        exact absurd hverifies (hnone _ _ _)
  | onboardingJob verifyPaystack job ids now =>
    rcases OnboardingWorker.process_cases verifyPaystack job ids now db with
      ⟨onboarding, payment, plan, honboards, companies, users, subscriptions, ledger, onboardings,
        hrecord, -, -, hdb⟩ | ⟨hnone, hdb⟩
    · rw [posting?, OnboardingWorker.onboarded?_eq_some.mpr ⟨onboarding, honboards⟩, apply, hdb]
      exact hrecord
    · have hsame : (OnboardingWorker.process verifyPaystack job ids now db).1.ledger =
          db.ledger := by
        rcases hdb with hdb | ⟨payment, onboardings, hdb⟩
        · rw [hdb]
        · rw [hdb]
      cases honboarded : OnboardingWorker.onboarded? verifyPaystack job ids db with
      | none =>
        rw [posting?, honboarded]
        exact hsame
      | some q =>
        obtain ⟨onboarding, honboards⟩ := OnboardingWorker.onboarded?_eq_some.mp honboarded
        exact absurd honboards (hnone _ _ _)
  | payout op =>
    rw [payout_posting?]
    exact op.apply_posted db
  | settlement op => exact settlement_posted op db
  | contract | elsewhere => cases he

end MoneyStep
end InstalFlow
