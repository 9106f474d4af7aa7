import InstalFlow.MoneyPostings
import InstalFlow.ScheduleTotals
import Mathlib.Algebra.Group.Submonoid.BigOperators

/-!
# Amounts in whole kobo

The transfer workers and the opening of a transaction send a hundred times the amount
of a row. Only the schedule of a contract rounds to kobo: a requested payout, the
charged price of a plan and a commission are carried as they are, and a plan is booked
at a price of its own. Where these are in whole kobo and agree, what is moved is booked.
-/

namespace InstalFlow
open Relational Transition LedgerService

/-- A positive amount in whole kobo, as Paystack takes it. -/
def WholeKobo (a : ℚ) : Prop := PositiveInteger (a * 100)

instance : DecidablePred WholeKobo := fun a =>
  inferInstanceAs (Decidable (PositiveInteger (a * 100)))

section numbers
variable {a : ℚ}

theorem wholeKobo_iff : WholeKobo a ↔ 0 < a ∧ a ∈ kobo := by
  rw [WholeKobo, positiveInteger_iff, mem_kobo]
  exact and_congr_left fun _ => by constructor <;> intro h <;> linarith

end numbers

section schedule
open InstallmentService
variable {p : ScheduleParams} {schedule : List InstallmentCreateInput}

/-- The rows of a schedule that has a kobo for each are in whole kobo. -/
theorem wholeKobo_schedule (h : generateInstallmentSchedule p = .ok schedule)
    (hcents : p.months ≤ totalInCents p.totalAmount) {r : InstallmentCreateInput}
    (hr : r ∈ schedule) : WholeKobo r.amount := by
  have hpos := (amounts_pos_iff h).mpr hcents r hr
  obtain ⟨i, -, rfl⟩ := (mem_schedule h).mp hr
  exact wholeKobo_iff.mpr ⟨hpos, cents_mem_kobo _⟩

end schedule

namespace MoneyStep

/-- What a step brings in is in whole kobo, and what it books was charged. -/
def InKobo (db : Database) : MoneyStep → Prop
  | approveApplication applicationId reviewerId m =>
    approves applicationId reviewerId m db = true →
    ∀ c ∈ KycService.contractOf applicationId db,
      c.approvedDurationMonths ≤ InstallmentService.totalInCents c.totalFinanced
  | contract (.restructure offset contractId adminUserId newTerms installmentId now) =>
    (FinancingService.restructureContract offset contractId adminUserId newTerms installmentId now
      db).isOk = true →
    ∀ terms ∈ (RestructureContractSchema.parse newTerms).toOption,
    ∀ c ∈ db.financingContracts.find? contractId, terms.numberOfInstallments ≤
      InstallmentService.totalInCents (FinancingService.newTotalFinanced c terms db)
  | reserve (.onboarding intentId) _ =>
    ∀ q ∈ (SubscriptionService.findOnboarding intentId db).toOption,
      WholeKobo (SubscriptionService.chargedPrice q.2)
  | reserve (.subscription _ planId _) _ =>
    ∀ plan ∈ (SubscriptionService.findActivePlan planId db).toOption,
      WholeKobo (SubscriptionService.chargedPrice plan)
  | verifySubscription verifyPaystack reference _ =>
    ∀ q ∈ SubscriptionService.verified? verifyPaystack reference db,
      SubscriptionService.bookedPrice q.2 = q.1.amount
  | onboardingJob verifyPaystack job ids _ =>
    ∀ q ∈ OnboardingWorker.onboarded? verifyPaystack job ids db, q.2.price = q.1.amount
  | payout (.requestPayout userId amount payoutId now) =>
    (CommissionService.requestPayout userId amount payoutId now db).isOk = true → WholeKobo amount
  | payout (.processPayment verifyPaystack job paymentId commissionId now) =>
    ∀ i ∈ PaymentWorker.recorded? verifyPaystack job paymentId commissionId now db,
      PaymentWorker.commissionAmount i ∈ kobo ∧
      ∀ n ∈ PaymentIntentService.findByReference job.reference db,
        n.installmentId = some job.installmentId
  | _ => True

end MoneyStep

/-- What an intent of an installment asks for is the amount of the installment. -/
def Database.Charged (db : Database) (t : ℚ × Option String) : Prop :=
  WholeKobo t.1 ∧ ∀ id ∈ t.2, db.installmentAmount id = some t.1

/-- The amounts that are carried are in whole kobo. -/
structure Database.Priced (db : Database) : Prop where
  installments : ∀ id, ∀ a ∈ db.installmentAmount id, WholeKobo a
  charges : ∀ id, ∀ t ∈ db.chargeTerms id, db.Charged t
  transfers : ∀ k, ∀ t ∈ db.transfer? k, WholeKobo t.2
  commissions : ∀ c ∈ db.commissionTerms, c.2.2 ∈ kobo

/-- Amounts are kept, and those added are in whole kobo. -/
structure Database.AddsKobo (db db' : Database) : Prop where
  installments : Grows WholeKobo db.installmentAmount db'.installmentAmount
  charges : Grows db.Charged db.chargeTerms db'.chargeTerms
  transfers : Grows (fun t => WholeKobo t.2) db.transfer? db'.transfer?
  commissions : ∀ c ∈ db'.commissionTerms, c ∈ db.commissionTerms ∨ c.2.2 ∈ kobo

namespace Database
variable {db db' : Database}

theorem SameAmounts.addsKobo (h : db.SameAmounts db') : db.AddsKobo db' where
  installments := .of_eq h.installments
  charges := .of_eq h.charges
  transfers := .of_eq h.transfers
  commissions _ hc := .inl (h.commissions ▸ hc)

theorem AddsKobo.refl (db : Database) : db.AddsKobo db :=
  SameAmounts.addsKobo ⟨rfl, rfl, rfl, rfl⟩

theorem MarksIntents.sameAmounts (h : db.MarksIntents db') : db.SameAmounts db' := by
  obtain ⟨intents, rfl, hterms⟩ := h
  exact ⟨rfl, hterms, rfl, rfl⟩

theorem Charged.mono {t : ℚ × Option String} (h : db.Charged t) (hadds : db.AddsKobo db') :
    db'.Charged t :=
  ⟨h.1, fun id hid => hadds.installments.kept (h.2 id hid)⟩

/-- Whatever adds amounts in whole kobo keeps them so. -/
theorem Priced.adds (h : db.Priced) (hadds : db.AddsKobo db') : db'.Priced where
  installments := hadds.installments.forall_mem h.installments fun _ ha => ha
  charges := hadds.charges.forall_mem (Q := db'.Charged)
    (fun id t ht => (h.charges id t ht).mono hadds) fun _ ht => ht.mono hadds
  transfers := hadds.transfers.forall_mem h.transfers fun _ ht => ht
  commissions c hc := by
    rcases hadds.commissions c hc with hold | hnew
    · exact h.commissions c hold
    · exact hnew

theorem AddsKobo.amount? (h : db.AddsKobo db') {k : Movement} {a : ℚ} (ha : db.amount? k = some a) :
    db'.amount? k = some a := by
  cases k with
  | charge intentId =>
    obtain ⟨t, ht, rfl⟩ := Option.map_eq_some_iff.mp ha
    rw [Database.amount?, h.charges.kept ht]
    rfl
  | transfer k =>
    obtain ⟨t, ht, rfl⟩ := Option.map_eq_some_iff.mp ha
    rw [Database.amount?, h.transfers.kept ht]
    rfl

theorem Priced.wholeKobo (h : db.Priced) {k : Movement} {a : ℚ} (ha : db.amount? k = some a) :
    WholeKobo a := by
  cases k with
  | charge intentId =>
    obtain ⟨t, ht, rfl⟩ := Option.map_eq_some_iff.mp ha
    exact (h.charges intentId t ht).1
  | transfer k =>
    obtain ⟨t, ht, rfl⟩ := Option.map_eq_some_iff.mp ha
    exact h.transfers k t ht

end Database

namespace MoneyStep
variable {db : Database}

/-- Installments that are written beside rows which keep their amounts. -/
theorem grows_installments {db' : Database} {u : Table Installment.installmentId}
    {rows : List Installment} (hu : u.view Installment.amount = db.installmentAmount)
    (h : db'.installments.rows = u.rows ++ rows) (hrows : ∀ i ∈ rows, WholeKobo i.amount) :
    Grows WholeKobo db.installmentAmount db'.installmentAmount := by
  rw [← hu]
  exact Table.grows_append h hrows

theorem adds_approveApplication {applicationId reviewerId : String} {m : KycMoment}
    (h : (approveApplication applicationId reviewerId m).InKobo db) :
    db.AddsKobo ((approveApplication applicationId reviewerId m).apply db) := by
  refine committed_rule (P := db.AddsKobo) (.refl db) fun result happrove => ?_
  obtain ⟨hframe, hinstallments⟩ := KycService.approveApplication_frame happrove
  obtain ⟨_, installments⟩ := result
  obtain ⟨_, _, _, installments, _, _, _, _, rfl⟩ := hframe
  refine ⟨?_, .of_eq rfl, .of_eq rfl, fun c hc => .inl hc⟩
  rcases hinstallments with hsame | ⟨rfl, contract, schedule, hcontract, hschedule, hrows⟩
  · exact .of_eq (congrArg (Table.view Installment.amount) hsame)
  · refine grows_installments rfl hrows fun i hi => ?_
    obtain ⟨row, hrow, rfl⟩ := List.mem_map.mp hi
    exact wholeKobo_schedule hschedule (h (approves_iff.mpr ⟨_, happrove⟩) contract hcontract) hrow

theorem view_voidInstallments (contractId : String) (db : Database) :
    (FinancingService.voidInstallments contractId db).installments.view Installment.amount =
      db.installmentAmount :=
  Table.view_updateMany db.installments _ (f := FinancingService.voidedRow) (fun _ => rfl)
    fun _ => rfl

theorem adds_contract {op : ContractOperation} (h : (contract op).InKobo db) :
    db.AddsKobo ((contract op).apply db) := by
  suffices hinstallments : Grows WholeKobo db.installmentAmount (op.apply db).installmentAmount by
    obtain ⟨_, _, _, hdb⟩ := op.frame db
    refine ⟨hinstallments, .of_eq ?_, .of_eq ?_, fun c hc => .inl ?_⟩
    · rw [apply, hdb]
      rfl
    · rw [apply, hdb]
      rfl
    · rw [apply, hdb] at hc
      exact hc
  cases op with
  | pendingToDue now =>
    exact .of_eq (Table.view_updateMany db.installments _
      (f := fun i => { i with status := .due }) (fun _ => rfl) fun _ => rfl)
  | dueToOverdue now =>
    exact .of_eq (Table.view_updateMany db.installments _
      (f := fun i => { i with status := .overdue }) (fun _ => rfl) fun _ => rfl)
  | markDefaulted contractId late =>
    rw [ContractOperation.apply, InstalFlow.markDefaulted]
    split
    · exact .of_eq (Table.view_updateMany db.installments _ (f := defaultedRow) (fun _ => rfl)
        fun _ => rfl)
    · exact .of_eq rfl
  | restructure offset contractId adminUserId newTerms installmentId now =>
    refine committed_rule (P := fun db' => Grows WholeKobo db.installmentAmount
      db'.installmentAmount) (.of_eq rfl) fun result hcall => ?_
    obtain ⟨terms, o, schedule, hterms, hr⟩ := FinancingService.restructureContract_eq_ok hcall
    refine grows_installments (view_voidInstallments contractId db) hr.closes.installments
      fun i hi => ?_
    obtain ⟨numbered, hnumbered, rfl⟩ := List.mem_map.mp hi
    obtain ⟨row, hrow, rfl⟩ := List.mem_map.mp hnumbered
    obtain ⟨hcontract, -⟩ := FinancingService.findForRestructure_eq_ok hr.found
    refine wholeKobo_schedule (r := row) hr.scheduled ?_ hrow
    exact h (isOk_iff.mpr ⟨_, hcall⟩) terms (toOption_eq_some.mpr hterms) o.contract hcontract
  | writeOff contractId companyUserId reason now =>
    refine committed_rule (P := fun db' => Grows WholeKobo db.installmentAmount
      db'.installmentAmount) (.of_eq rfl) fun result hcall => ?_
    obtain ⟨o, -, hcloses⟩ := FinancingService.writeOffContract_eq_ok hcall
    exact grows_installments (view_voidInstallments contractId db) hcloses.installments
      fun i hi => absurd hi (List.not_mem_nil)

/-- The parameters of a request ask for whole kobo, of an installment for its amount. -/
theorem charged_params {request : ChargeRequest} {m : Moment} {params : ReserveIntentParams}
    (hpriced : db.Priced) (h : (reserve request m).InKobo db)
    (hparams : request.params m.now db = .ok params) :
    db.Charged (params.amount, params.installmentId) := by
  cases request with
  | installment installmentId customerId =>
    obtain ⟨i, hi, hparams⟩ := bind_eq_ok.mp hparams
    obtain ⟨_, -, hparams⟩ := bind_eq_ok.mp hparams
    obtain ⟨payer, -, hparams⟩ := bind_eq_ok.mp hparams
    cases hparams
    have hfound : db.installments.find? i.installment.installmentId = some i.installment := by
      rw [InstallmentService.assertMayPay] at hi
      split at hi
      · cases hi
      · rename_i found hfind
        split_ifs at hi
        cases hi
        obtain ⟨row, hrow, hrest⟩ := Option.bind_eq_some_iff.mp hfind
        obtain ⟨contract, -, hrest⟩ := Option.bind_eq_some_iff.mp hrest
        cases hrest
        exact Table.find?_of_mem (Table.mem_of_find? hrow)
    have hamount : db.installmentAmount i.installment.installmentId = some i.installment.amount :=
      congrArg (Option.map Installment.amount) hfound
    exact ⟨hpriced.installments _ _ hamount, fun id hid => by cases hid; exact hamount⟩
  | onboarding intentId =>
    obtain ⟨found, hfound, hparams⟩ := bind_eq_ok.mp hparams
    cases hparams
    exact ⟨h found (toOption_eq_some.mpr hfound), fun id hid => by cases hid⟩
  | subscription companyId planId email =>
    obtain ⟨plan, hplan, hparams⟩ := bind_eq_ok.mp hparams
    cases hparams
    exact ⟨h plan (toOption_eq_some.mpr hplan), fun id hid => by cases hid⟩

theorem adds_reserve {request : ChargeRequest} {m : Moment} (hpriced : db.Priced)
    (h : (reserve request m).InKobo db) : db.AddsKobo ((reserve request m).apply db) := by
  rcases apply_reserve request m db with ⟨params, intents, hparams, hcreate, hdb⟩ | hdb
  · rw [hdb]
    exact ⟨.of_eq rfl, Table.grows_create hcreate (charged_params hpriced h hparams), .of_eq rfl,
      fun c hc => .inl hc⟩
  · rw [hdb]
    exact .refl db

theorem sameAmounts_verifySubscription (verifyPaystack : String → Except String Verification)
    (reference : String) (now : DateTime) (db : Database) :
    db.SameAmounts ((verifySubscription verifyPaystack reference now).apply db) := by
  rw [apply]
  rcases SubscriptionService.verifySubscription_cases verifyPaystack reference now db with
    ⟨intent, plan, s, -, ledger, -, hdb⟩ | ⟨-, hdb⟩
  · rw [hdb]
    exact ⟨rfl, Table.view_update db.paymentIntents intent.intentId
      (f := fun i => { i with status := .success, updatedAt := now }) (fun _ => rfl) fun _ => rfl,
      rfl, rfl⟩
  · rw [hdb]
    exact ⟨rfl, rfl, rfl, rfl⟩

theorem chargeTerms_markedSuccess (payment : PaymentIntent) (now : DateTime) (db : Database) :
    (PaymentWorker.markedSuccess payment now db).view PaymentIntent.terms = db.chargeTerms :=
  Table.view_updateMany db.paymentIntents _
    (f := fun i => { i with status := .success, updatedAt := now }) (fun _ => rfl) fun _ => rfl

theorem sameAmounts_onboardingJob (verifyPaystack : String → Except String Verification)
    (job : OnboardingJobData) (ids : OnboardingIds) (now : DateTime) (db : Database) :
    db.SameAmounts ((onboardingJob verifyPaystack job ids now).apply db) := by
  rw [apply]
  rcases OnboardingWorker.process_cases verifyPaystack job ids now db with
    ⟨onboarding, payment, plan, -, companies, users, subscriptions, ledger, onboardings, -, -, -,
      hdb⟩ | ⟨-, hdb | ⟨payment, onboardings, hdb⟩⟩
  · rw [hdb]
    exact ⟨rfl, chargeTerms_markedSuccess payment now db, rfl, rfl⟩
  · rw [hdb]
    exact ⟨rfl, rfl, rfl, rfl⟩
  · rw [hdb]
    exact ⟨rfl, chargeTerms_markedSuccess payment now db, rfl, rfl⟩

section payouts
variable {op : Operation}

/-- A payment job changes no amount of an installment or of an intent. -/
theorem views_processPayment (verifyPaystack : String → Except String Verification)
    (job : PaymentJobData) (paymentId commissionId : String) (now : DateTime) (db : Database) :
    let db' := (Operation.processPayment verifyPaystack job paymentId commissionId now).apply db
    db'.installmentAmount = db.installmentAmount ∧ db'.chargeTerms = db.chargeTerms := by
  refine committed_rule (P := fun db' => db'.installmentAmount = db.installmentAmount ∧
    db'.chargeTerms = db.chargeTerms) ⟨rfl, rfl⟩ fun result h => ⟨?_, ?_⟩
  · obtain ⟨i, -, ⟨-, intents, hdb⟩ | ⟨-, hcommits⟩⟩ := PaymentWorker.process_eq_ok h
    · rw [hdb]
      rfl
    · obtain ⟨_, _, _, _, hdb⟩ := hcommits.frame
      rw [hdb]
      exact Table.view_update db.installments _
        (f := fun i => { i with status := .paid, paidAt := some now }) (fun _ => rfl) fun _ => rfl
  · rw [Database.chargeTerms]
    rcases PaymentWorker.process_intents h with hsame | ⟨n, -, hmarked⟩
    · rw [hsame]
      rfl
    · rw [hmarked]
      exact chargeTerms_markedSuccess n now db

theorem transfers_payout (h : (payout op).InKobo db) :
    Grows (fun t => WholeKobo t.2) db.transfer? (op.apply db).transfer? := by
  intro k
  cases k with
  | settlement id =>
    left
    simp only [Database.transfer?, Database.settlementTerms, (Operation.keeps db op).settlements]
  | payout id =>
    rcases op.payoutTerms_apply_cases db id with
      hsame | ⟨hnone, user, companyId, amount, -, -, hnew, userId, payoutId, now, rfl, hok⟩
    · exact .inl (congrArg (Option.map Prod.snd) hsame)
    · refine .inr ⟨congrArg (Option.map Prod.snd) hnone, fun t ht => ?_⟩
      rw [Database.transfer?, hnew] at ht
      cases ht
      exact h hok

theorem commissions_payout (h : (payout op).InKobo db) :
    ∀ c ∈ (op.apply db).commissionTerms, c ∈ db.commissionTerms ∨ c.2.2 ∈ kobo := by
  intro c hc
  rw [op.commissionTerms_apply, List.mem_append, Option.mem_toList] at hc
  rcases hc with hold | hnew
  · exact .inl hold
  · right
    cases op with
    | processPayment verifyPaystack job paymentId commissionId now =>
      obtain ⟨i, hi, hnew⟩ := Option.bind_eq_some_iff.mp hnew
      obtain ⟨a, ha, rfl⟩ := Option.map_eq_some_iff.mp hnew
      have hkobo := (h i hi).1
      rw [PaymentWorker.commissionAmount, ha] at hkobo
      exact hkobo
    | requestPayout | adminApprovePayout | companyApprovePayout | initiateTransfer | transferJob
      | transferJobFailed | webhook => cases hnew

theorem adds_payout (h : (payout op).InKobo db) : db.AddsKobo ((payout op).apply db) := by
  have hviews : (op.apply db).installmentAmount = db.installmentAmount ∧
      (op.apply db).chargeTerms = db.chargeTerms := by
    rcases op.frame_cases db with
      ⟨verifyPaystack, job, paymentId, commissionId, now, rfl⟩ | ⟨_, _, _, _, _, hdb⟩
    · exact views_processPayment verifyPaystack job paymentId commissionId now db
    · rw [hdb]
      exact ⟨rfl, rfl⟩
  exact ⟨.of_eq hviews.1, .of_eq hviews.2, transfers_payout h, commissions_payout h⟩

end payouts

section settlements
open MerchantSettlementService

theorem commissionDeducted_mem_kobo (h : db.Priced) (i : Installment) :
    commissionDeducted db i ∈ kobo := by
  rw [commissionDeducted]
  split
  · exact kobo.zero_mem
  · refine list_sum_mem fun amount hamount => ?_
    obtain ⟨c, hc, rfl⟩ := List.mem_map.mp hamount
    exact h.commissions c.terms (List.mem_map_of_mem (List.mem_of_mem_filter hc))

/-- The total of the lines of a settlement is in kobo, as the installments and the
commissions are. -/
theorem netAmounts_mem_kobo (h : db.Priced) (companyId settlementId : String) :
    (((eligibleInstallments companyId db).map (settlementLine settlementId db)).map
      MerchantSettlementLine.netAmount).sum ∈ kobo := by
  refine list_sum_mem fun amount hamount => ?_
  obtain ⟨line, hline, rfl⟩ := List.mem_map.mp hamount
  obtain ⟨i, hi, rfl⟩ := List.mem_map.mp hline
  have hrow := (mem_eligibleInstallments.mp hi).1
  have hamount : WholeKobo i.amount :=
    h.installments i.installmentId i.amount (Table.mem_view.mpr ⟨i, hrow, rfl, rfl⟩)
  exact kobo.sub_mem (wholeKobo_iff.mp hamount).2 (commissionDeducted_mem_kobo h i)

theorem terms_generateForCompany (h : db.Priced) {companyId settlementId : String}
    {now : DateTime} {result : Option MerchantSettlementRequest × Database}
    (hcall : generateForCompany companyId settlementId now db = .ok result) :
    Grows (fun t => WholeKobo t.2) db.settlementTerms result.2.settlementTerms := by
  rw [generateForCompany] at hcall
  split at hcall
  · cases hcall
    exact .of_eq rfl
  · rename_i hguard
    split at hcall
    · cases hcall
    · rename_i settlement created hcreate
      cases hcall
      obtain ⟨settlements, lines, trail, rfl, rfl, hnew, hfind, -⟩ := createSettlement_eq_ok hcreate
      intro k
      by_cases hk : k = settlementId
      · subst hk
        refine .inr ⟨congrArg (Option.map MerchantSettlementRequest.terms) hnew, fun t ht => ?_⟩
        rw [Database.settlementTerms, hfind, if_pos rfl] at ht
        cases ht
        refine wholeKobo_iff.mpr ⟨?_, netAmounts_mem_kobo h companyId k⟩
        exact not_le.mp fun hle => hguard (.inr hle)
      · left
        rw [Database.settlementTerms, hfind, if_neg hk]
        rfl

theorem terms_settlement (h : db.Priced) (op : SettlementOp) :
    Grows (fun t => WholeKobo t.2) db.settlementTerms (op.apply db).settlementTerms := by
  have hcommitted {α : Type} {state : α → Database} {r : Except AppError α}
      (hr : ∀ a, r = .ok a →
        Grows (fun t => WholeKobo t.2) db.settlementTerms (state a).settlementTerms) :
      Grows (fun t => WholeKobo t.2) db.settlementTerms (committed db state r).settlementTerms :=
    committed_rule (P := fun db' => Grows (fun t => WholeKobo t.2) db.settlementTerms
      db'.settlementTerms) (.of_eq rfl) hr
  have hsettles {db' : Database} (hs : Settles db db') :
      Grows (fun t => WholeKobo t.2) db.settlementTerms db'.settlementTerms :=
    .of_eq (funext hs.terms)
  cases op with
  | addBankAccount resolveAccount companyId accountId data =>
    refine hcommitted fun res hadd => .of_eq (funext fun k => ?_)
    rw [Database.settlementTerms, (CompanyBankAccountService.addBankAccount_eq_ok hadd).1]
    rfl
  | switchPrimaryBankAccount companyId accountId =>
    refine hcommitted fun res hswitch => .of_eq (funext fun k => ?_)
    rw [Database.settlementTerms, id,
      (CompanyBankAccountService.switchPrimaryBankAccount_eq_ok hswitch).1]
    rfl
  | removeBankAccount companyId accountId =>
    refine hcommitted fun res hremove => ?_
    obtain ⟨rfl, -⟩ := CompanyBankAccountService.removeBankAccount_eq_ok hremove
    exact .of_eq (Table.view_updateMany db.merchantSettlementRequests _
      MerchantSettlementRequest.unlinked_settlementId fun _ => rfl)
  | generateForCompany companyId settlementId now =>
    exact hcommitted fun res hgenerate => terms_generateForCompany h hgenerate
  | queueEligibleTransfers now => exact hsettles (Settles.queueEligibleTransfers now db).1
  | retryTransfer settlementId superAdminUserId now =>
    exact hcommitted fun res hretry => hsettles (Settles.retryTransfer hretry).1
  | transferJob paystack settlementId now =>
    exact hsettles (MerchantSettlementTransferWorker.process_settles paystack settlementId now db)
  | jobFailed job message now =>
    rw [SettlementOp.apply, MerchantSettlementTransferWorker.onFailed]
    split
    · split
      · exact .of_eq rfl
      · exact .of_eq (Table.view_update db.merchantSettlementRequests job.settlementId
          (f := MerchantSettlementTransferWorker.giveUp message now) (fun _ => rfl) fun _ => rfl)
    · exact .of_eq rfl
  | webhook event settlementId payload now =>
    exact hcommitted fun db' hhandle =>
      hsettles (SettlementHandler.handle_eq_ok hhandle event.settlementHandler_terms).1

theorem adds_settlement (h : db.Priced) (op : SettlementOp) :
    db.AddsKobo ((settlement op).apply db) := by
  have hterms := terms_settlement h op
  rw [apply]
  obtain ⟨_, _, _, _, _, hdb⟩ := (op.frame db).tables
  rw [hdb] at hterms ⊢
  refine ⟨.of_eq rfl, .of_eq rfl, fun k => ?_, fun c hc => .inl hc⟩
  cases k with
  | payout id => exact .inl rfl
  | settlement id => exact hterms id

end settlements

/-- In whole kobo, a step keeps the amounts and adds whole kobo. -/
theorem adds (h : db.Priced) {e : MoneyStep} (he : e.InKobo db) : db.AddsKobo (e.apply db) := by
  cases e with
  | approveApplication applicationId reviewerId m => exact adds_approveApplication he
  | contract op => exact adds_contract he
  | reserve request m => exact adds_reserve h he
  | initializePaystack provider intentId markFailedOnError now =>
    exact (Database.MarksIntents.of_reaches
      (initializePaystack_reaches provider intentId markFailedOnError now)).sameAmounts.addsKobo
  | statement a now => exact (Database.MarksIntents.execute db a now).sameAmounts.addsKobo
  | verifySubscription verifyPaystack reference now =>
    exact (sameAmounts_verifySubscription verifyPaystack reference now db).addsKobo
  | onboardingJob verifyPaystack job ids now =>
    exact (sameAmounts_onboardingJob verifyPaystack job ids now db).addsKobo
  | payout op => exact adds_payout he
  | settlement op => exact adds_settlement h op
  | elsewhere f hf => exact (hf db).addsKobo

section movements

theorem amount?_charge {n : PaymentIntent} (h : n ∈ db.paymentIntents.rows) :
    db.amount? (.charge n.intentId) = some n.amount := by
  rw [Database.amount?, Database.chargeTerms, Table.view, Table.find?_of_mem h]
  rfl

theorem amount?_payout {p : CommissionPayoutRequest} (h : p ∈ db.commissionPayoutRequests.rows) :
    db.amount? (.transfer (.payout p.payoutId)) = some p.amount := by
  rw [Database.amount?, Database.transfer?, Database.payoutTerms, Table.find?_of_mem h]
  rfl

theorem amount?_settlement {s : MerchantSettlementRequest}
    (h : s ∈ db.merchantSettlementRequests.rows) :
    db.amount? (.transfer (.settlement s.settlementId)) = some s.amount := by
  rw [Database.amount?, Database.transfer?, Database.settlementTerms, Table.find?_of_mem h]
  rfl

/-- A hundred times the amount of its row is asked for a movement. -/
theorem amount?_sent {e : MoneyStep} {p : Movement × ℚ} (h : e.sent? db = some p) :
    ∃ a, db.amount? p.1 = some a ∧ p.2 = a * 100 := by
  cases e with
  | initializePaystack provider intentId markFailedOnError now =>
    obtain ⟨n, hn, rfl⟩ := Option.map_eq_some_iff.mp h
    have hrow := Table.mem_of_find? (Option.filter_eq_some_iff.mp hn).1
    exact ⟨n.amount, amount?_charge hrow, rfl⟩
  | payout op =>
    cases op with
    | transferJob paystack payoutId =>
      obtain ⟨p, hp, rfl⟩ := Option.map_eq_some_iff.mp h
      have hrow := Table.mem_of_find? (Option.filter_eq_some_iff.mp hp).1
      exact ⟨p.amount, amount?_payout hrow, rfl⟩
    | processPayment | requestPayout | adminApprovePayout | companyApprovePayout
      | initiateTransfer | transferJobFailed | webhook => cases h
  | settlement op =>
    cases op with
    | transferJob paystack settlementId now =>
      obtain ⟨s, hs, rfl⟩ := Option.map_eq_some_iff.mp h
      have hrow := Table.mem_of_find? (Option.filter_eq_some_iff.mp hs).1
      exact ⟨s.amount, amount?_settlement hrow, rfl⟩
    | addBankAccount | switchPrimaryBankAccount | removeBankAccount | generateForCompany
      | queueEligibleTransfers | retryTransfer | jobFailed | webhook => cases h
  | approveApplication | contract | reserve | statement | verifySubscription | onboardingJob
    | elsewhere => cases h

theorem booked_transferPosting (k : TransferKey) (reference description : String)
    (p : CommissionPayoutRequest) (debit credit : String × AccountType) :
    (Movement.transfer k).booked (transferPosting reference description p debit
      credit) = p.amount := by
  simp [Movement.booked, totalDebits, transferPosting]

theorem booked_settlementPosting (k : TransferKey) (reference description : String)
    (s : MerchantSettlementRequest) (debit credit : String × AccountType) :
    (Movement.transfer k).booked (settlementPosting reference description
      s debit credit) = s.amount := by
  simp [Movement.booked, totalDebits, settlementPosting]

theorem booked_revenuePosting (intentId reference description : String)
    (companyId : Option String) (price : ℚ) :
    (Movement.charge intentId).booked (SubscriptionService.revenuePosting reference description
      companyId price) = price := by
  simp [Movement.booked, changeOf, SubscriptionService.revenuePosting, balanceChange]

theorem booked_paymentPosting (intentId : String) (i : LoadedInstallment) (reference : String) :
    (Movement.charge intentId).booked (PaymentWorker.paymentPosting i reference) =
      i.installment.amount := by
  simp only [Movement.booked, changeOf, PaymentWorker.paymentPosting, PaymentWorker.paymentEntries]
  split <;> split <;> simp [balanceChange]

/-- The intent of a recorded payment asks for the amount of the installment. -/
theorem amount?_recorded (hpriced : db.Priced)
    {verifyPaystack : String → Except String Verification} {job : PaymentJobData}
    {paymentId commissionId : String} {now : DateTime} {i : LoadedInstallment} {n : PaymentIntent}
    (hi : PaymentWorker.recorded? verifyPaystack job paymentId commissionId now db = some i)
    (hn : PaymentIntentService.findByReference job.reference db = some n)
    (hjob : n.installmentId = some job.installmentId) :
    db.amount? (.charge n.intentId) = some i.installment.amount := by
  have hrow := (PaymentIntentService.of_findByReference hn).1
  have hload : PaymentWorker.loadInstallment job.installmentId db = some i := by
    rw [PaymentWorker.recorded?] at hi
    split at hi
    · exact hi
    · cases hi
  have hfind := (PaymentWorker.loadInstallment_eq_some hload).1
  have hcharged := (hpriced.charges n.intentId n.terms
    (congrArg (Option.map PaymentIntent.terms) (Table.find?_of_mem hrow))).2 _ hjob
  have hamount : db.installmentAmount job.installmentId = some i.installment.amount :=
    congrArg (Option.map Installment.amount) hfind
  rw [amount?_charge hrow, ← hamount, hcharged]
  rfl

/-- In whole kobo, what is booked for a movement is the amount of its row. -/
theorem amount?_booked (hpriced : db.Priced) {e : MoneyStep} (he : e.InKobo db)
    {q : Movement × LedgerTransaction} (h : e.posting? db = some q) :
    db.amount? q.1 = some (q.1.booked q.2) := by
  cases e with
  | verifySubscription verifyPaystack reference now =>
    obtain ⟨⟨intent, plan⟩, hfound, rfl⟩ := Option.map_eq_some_iff.mp h
    obtain ⟨s, hverifies⟩ := SubscriptionService.verified?_eq_some.mp hfound
    have hrow := Table.mem_of_find? (MarkingCall.checkIntent_find? hverifies.checked)
    rw [amount?_charge hrow, SubscriptionService.revenueOf, booked_revenuePosting]
    exact congrArg some (he _ hfound).symm
  | onboardingJob verifyPaystack job ids now =>
    obtain ⟨⟨payment, plan⟩, hfound, rfl⟩ := Option.map_eq_some_iff.mp h
    obtain ⟨onboarding, honboards⟩ := OnboardingWorker.onboarded?_eq_some.mp hfound
    have hrow := Table.mem_of_find? (MarkingCall.onboardingCheck_find? honboards.checked)
    rw [amount?_charge hrow, OnboardingWorker.onboardingRevenue, booked_revenuePosting]
    exact congrArg some (he _ hfound).symm
  | payout op =>
    cases op with
    | processPayment verifyPaystack job paymentId commissionId now =>
      obtain ⟨i, hi, h⟩ := Option.bind_eq_some_iff.mp h
      obtain ⟨n, hn, rfl⟩ := Option.map_eq_some_iff.mp h
      rw [booked_paymentPosting]
      exact amount?_recorded hpriced hi hn ((he i hi).2 n hn)
    | transferJob paystack payoutId =>
      obtain ⟨p, hp, rfl⟩ := Option.map_eq_some_iff.mp h
      have hrow := Table.mem_of_find? (TransferWorker.initiated?_eq_some hp).1
      rw [amount?_payout hrow, TransferWorker.initPosting, booked_transferPosting]
    | webhook event payload now =>
      obtain ⟨p, hp, rfl⟩ := Option.map_eq_some_iff.mp h
      have hrow := Table.mem_of_find? (event.target?_eq_some.mp hp).1
      rw [amount?_payout hrow]
      cases event <;> exact congrArg some (booked_transferPosting _ _ _ p _ _).symm
    | requestPayout | adminApprovePayout | companyApprovePayout | initiateTransfer
      | transferJobFailed => cases h
  | settlement op =>
    cases op with
    | transferJob paystack settlementId now =>
      obtain ⟨s, hs, rfl⟩ := Option.map_eq_some_iff.mp h
      have hrow := Table.mem_of_find? (Option.filter_eq_some_iff.mp hs).1
      rw [amount?_settlement hrow, MerchantSettlementTransferWorker.initPosting,
        booked_settlementPosting]
    | webhook event settlementId payload now =>
      obtain ⟨s, hs, rfl⟩ := Option.map_eq_some_iff.mp h
      have hrow := Table.mem_of_find? (Option.filter_eq_some_iff.mp hs).1
      rw [amount?_settlement hrow]
      cases event <;> exact congrArg some (booked_settlementPosting _ _ _ s _ _).symm
    | addBankAccount | switchPrimaryBankAccount | removeBankAccount | generateForCompany
      | queueEligibleTransfers | retryTransfer | jobFailed => cases h
  | approveApplication | contract | reserve | initializePaystack | statement | elsewhere => cases h

end movements

end MoneyStep

namespace MoneyState

/-- The rows behind what was sent and booked have the amounts it was sent and booked for. -/
structure Sound (s : MoneyState) : Prop where
  priced : s.db.Priced
  sent : ∀ p ∈ s.sent, ∃ a, s.db.amount? p.1 = some a ∧ p.2 = a * 100
  booked : ∀ q ∈ s.booked, s.db.amount? q.1 = some q.2

variable {s : MoneyState}

theorem Sound.movesBooked (h : s.Sound) : s.MovesBooked := by
  intro p hp
  obtain ⟨a, ha, hsent⟩ := h.sent p hp
  rw [hsent]
  refine ⟨h.priced.wholeKobo ha, fun q hq hsame => ?_⟩
  have hq := h.booked q hq
  rw [hsame, ha] at hq
  rw [Option.some.inj hq, mul_comm]

theorem sound_step (h : s.Sound) {e : MoneyStep} (he : e.InKobo s.db) : (s.step e).Sound := by
  have hadds := MoneyStep.adds h.priced he
  constructor
  · exact h.priced.adds hadds
  · intro p hp
    rcases List.mem_append.mp hp with hp | hp
    · obtain ⟨a, ha, hsent⟩ := h.sent p hp
      exact ⟨a, hadds.amount? ha, hsent⟩
    · obtain ⟨a, ha, hsent⟩ := MoneyStep.amount?_sent (Option.mem_toList.mp hp)
      exact ⟨a, hadds.amount? ha, hsent⟩
  · intro q hq
    rcases List.mem_append.mp hq with hq | hq
    · exact hadds.amount? (h.booked q hq)
    · obtain ⟨posted, hposted, rfl⟩ := Option.map_eq_some_iff.mp (Option.mem_toList.mp hq)
      exact hadds.amount? (MoneyStep.amount?_booked h.priced he hposted)

end MoneyState

/-- In every run in which what is requested, charged and withheld is in whole kobo, and
what is booked for a plan was charged for it: every amount sent to Paystack is a positive
whole number of kobo, and a hundred times what is posted for the same movement. -/
theorem amounts_moved_as_booked {s : MoneyState} (h : s.Sound) (steps : List MoneyStep)
    (hkobo : Along MoneyState.step (fun s e => e.InKobo s.db) s steps) :
    Throughout MoneyState.step MoneyState.MovesBooked s steps := by
  have hsound : Throughout MoneyState.step MoneyState.Sound s steps :=
    hkobo.throughout (fun s e hs he => MoneyState.sound_step hs he) h
  exact hsound.imp fun s hs => hs.movesBooked

/-- A commission to request a payout of, with nothing sent or booked. -/
def unrequested : MoneyState where
  db := soleCommission

def payOut (amount : ℚ) : List MoneyStep :=
  (transferOut "p" amount ++ [.transferJob acceptingPaystack "p", webhookFor .success "p"]).map
    MoneyStep.payout

theorem unrequested_sound : unrequested.Sound := by
  refine ⟨⟨fun id a ha => ?_, fun id t ht => ?_, fun k t ht => ?_, by decide +kernel⟩,
    fun p hp => absurd hp (List.not_mem_nil), fun q hq => absurd hq (List.not_mem_nil)⟩
  · cases ha
  · cases ht
  · cases k <;> cases ht

theorem half_naira_moved :
    Throughout MoneyState.step MoneyState.MovesBooked unrequested (payOut (1 / 2)) :=
  amounts_moved_as_booked unrequested_sound _
    ⟨fun _ => by decide +kernel, trivial, trivial, trivial, trivial, trivial⟩

/-- Of a payout of half a kobo, half a kobo is sent. -/
theorem half_kobo_moved :
    ¬ Throughout MoneyState.step MoneyState.MovesBooked unrequested (payOut (1 / 200)) := by
  intro h
  have hlast := h.last
  revert hlast
  decide +kernel

end InstalFlow
