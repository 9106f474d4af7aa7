import InstalFlow.ProgressFigures
import InstalFlow.Relational.Earliest
import InstalFlow.Relational.Joined

/-!
# Balances on the dashboards

The totals of the contracts that are neither closed nor DEFAULTED, without what is PAID of all
contracts. What is PAID of a contract that is COMPLETED, DEFAULTED or WRITTEN_OFF is subtracted
from the totals of the others.
-/

namespace InstalFlow
open Relational Transition

/-- The Numbers of the overviews are taken as exact. -/
structure Financials where
  totalFinanced : ℚ
  totalPaid : ℚ
  outstandingBalance : ℚ
  collectionRate : ℚ

structure ContractCounts where
  active : ℕ
  defaulted : ℕ

structure PayoutTotals where
  pendingAdmin : ℚ
  pendingCompany : ℚ
  approved : ℚ
  transferInitiated : ℚ
  paid : ℚ
  failed : ℚ

/-- The notifications, the subscription and the ten latest contracts are left out. -/
structure CompanyOverview where
  financials : Financials
  contracts : ContractCounts
  pendingApprovals : ℕ
  payouts : PayoutTotals

structure CustomerSummary where
  activeContracts : ℕ
  totalFinanced : ℚ
  totalPaid : ℚ
  remainingBalance : ℚ
  overallProgress : ℚ
  overdueAmount : ℚ

structure NextPayment where
  installmentId : String
  amount : ℚ
  dueDate : DateTime

structure CustomerContract where
  contractId : String
  totalFinanced : ℚ
  paidAmount : ℚ
  status : FinancingStatus

/-- The products and the marketer are left out. -/
structure CustomerOverview where
  summary : CustomerSummary
  nextPayment : Option NextPayment
  contracts : List CustomerContract

def FinancingStatus.counted : FinancingStatus → Bool
  | .active | .pendingActivation | .restructured => true
  | _ => false

/-- The contracts that an overview is about -/
abbrev ContractFilter := FinancingContract → Bool

namespace ContractFilter

/-- `product: { companyId }` -/
def ofCompany (companyId : String) (db : Database) : ContractFilter := fun c =>
  (db.products.find? c.productId).any fun p => p.companyId = some companyId

/-- `userId: customerId` -/
def ofCustomer (customerId : String) : ContractFilter := fun c => c.userId = some customerId

end ContractFilter

namespace AnalyticsService

def totalFinanced (scope : ContractFilter) (db : Database) : ℚ :=
  db.financingContracts.sumWhere (fun c => scope c ∧ c.status.counted)
    FinancingContract.totalFinanced

/-- The aggregate over the installments in some statuses, of any contract in scope -/
def sumInstallments (scope : ContractFilter) (statuses : List InstallmentStatus) (db : Database) :
    ℚ :=
  db.installments.sumWhere (fun i => i.status ∈ statuses ∧
    (db.financingContracts.find? i.financingContractId).any scope) Installment.amount

def percentage (totalPaid totalFinanced : ℚ) : ℚ :=
  if 0 < totalFinanced then PaymentWorker.roundCents (totalPaid / totalFinanced * 100) else 0

def sumPayouts (companyId : String) (status : CommissionPayoutStatus) (db : Database) : ℚ :=
  db.commissionPayoutRequests.sumWhere (fun r => r.companyId = companyId ∧ r.status = status)
    CommissionPayoutRequest.amount

def getCompanyOverview (companyId : String) (db : Database) : CompanyOverview :=
  let scope := ContractFilter.ofCompany companyId db
  let totalFinanced := totalFinanced scope db
  let totalPaid := sumInstallments scope [.paid] db
  { financials := { totalFinanced, totalPaid, outstandingBalance := totalFinanced - totalPaid
                    collectionRate := percentage totalPaid totalFinanced }
    contracts :=
      { active := db.financingContracts.rows.countP fun c => scope c ∧ c.status = .active
        defaulted := db.financingContracts.rows.countP fun c =>
          scope c ∧ (c.status = .defaulted ∨ c.status = .writtenOff) }
    pendingApprovals := db.kycApplications.rows.countP fun a => a.status = .approvalProcessing ∧
      (KycService.sessionOf a db).any fun s => s.companyId = some companyId
    payouts :=
      { pendingAdmin := sumPayouts companyId .pendingAdminApproval db
        pendingCompany := sumPayouts companyId .pendingCompanyApproval db
        approved := sumPayouts companyId .approved db
        transferInitiated := sumPayouts companyId .transferInitiated db
        paid := sumPayouts companyId .paid db
        failed := sumPayouts companyId .transferFailed db +
          sumPayouts companyId .transferReversed db } }

/-- `orderBy: { dueDate: "asc" }` -/
def nextPayment (scope : ContractFilter) (db : Database) : Option NextPayment :=
  (earliestBy Installment.dueDate (db.installments.rows.filter fun i =>
    (i.status = .pending ∨ i.status = .due) ∧
      (db.financingContracts.find? i.financingContractId).any scope)).map fun i =>
    { installmentId := i.installmentId, amount := i.amount, dueDate := i.dueDate }

def getCustomerOverview (customerId : String) (db : Database) : CustomerOverview :=
  let scope := ContractFilter.ofCustomer customerId
  let activeContracts := db.financingContracts.rows.filter fun c => scope c ∧ c.status.counted
  let totalFinanced := totalFinanced scope db
  let totalPaid := sumInstallments scope [.paid] db
  { summary := { activeContracts := activeContracts.length, totalFinanced, totalPaid
                 remainingBalance := totalFinanced - totalPaid
                 overallProgress := percentage totalPaid totalFinanced
                 overdueAmount := sumInstallments scope [.overdue, .defaulted] db }
    nextPayment := nextPayment scope db
    contracts := activeContracts.map fun c =>
      { contractId := c.contractId, totalFinanced := c.totalFinanced
        paidAmount := FinancingService.paidAmount c.contractId db, status := c.status } }

end AnalyticsService

/-- The database, and what was paid of each contract when its total was set last -/
structure Portfolio where
  db : Database
  before : String → ℚ

/-- What submits or rejects applications, or changes contracts and their installments -/
inductive PortfolioStep
  | submitApplication (storage : Storage) (sessionId : String) (params : SubmitApplication)
      (file : UploadedPdfFile) (m : KycMoment)
  | rejectApplication (applicationId adminId reason : String) (m : KycMoment)
  | receivable (e : ReceivableStep)

namespace PortfolioStep

def apply (db : Database) : PortfolioStep → Database
  | submitApplication storage sessionId params file m => committed db Prod.snd
      (KycService.submitApplication storage sessionId params file m db)
  | rejectApplication applicationId adminId reason m => committed db (fun db => db)
      (KycService.rejectApplication applicationId adminId reason m db)
  | receivable e => e.apply db

end PortfolioStep

/-- A restructuring sets another total. -/
def Portfolio.beforeAfter (s : Portfolio) : PortfolioStep → String → ℚ
  | .receivable (.operation (.restructure offset id adminUserId newTerms installmentId now)) =>
    if (FinancingService.restructureContract offset id adminUserId newTerms installmentId now
        s.db).isOk then
      Function.update s.before id (FinancingService.paidAmount id s.db)
    else s.before
  | _ => s.before

def portfolioStep (s : Portfolio) (e : PortfolioStep) : Portfolio where
  db := e.apply s.db
  before := s.beforeAfter e

namespace Portfolio

/-- What was paid of a contract since its total was set -/
def paidSince (s : Portfolio) (contractId : String) : ℚ :=
  FinancingService.paidAmount contractId s.db - s.before contractId

/-- The totals of the counted contracts without what was paid since they were set -/
def unpaid (s : Portfolio) (scope : ContractFilter) : ℚ :=
  s.db.financingContracts.sumWhere (fun c => scope c ∧ c.status.counted)
    fun c => c.totalFinanced - s.paidSince c.contractId

structure RealBalance (s : Portfolio) (scope : ContractFilter) (balance percentage : ℚ) : Prop where
  unpaid : balance = s.unpaid scope
  nonneg : 0 ≤ balance
  le_hundred : percentage ≤ 100

def CompanyReal (companyId : String) (s : Portfolio) : Prop :=
  s.RealBalance (.ofCompany companyId s.db)
    (AnalyticsService.getCompanyOverview companyId s.db).financials.outstandingBalance
    (AnalyticsService.getCompanyOverview companyId s.db).financials.collectionRate

def CustomerReal (customerId : String) (s : Portfolio) : Prop :=
  s.RealBalance (.ofCustomer customerId)
    (AnalyticsService.getCustomerOverview customerId s.db).summary.remainingBalance
    (AnalyticsService.getCustomerOverview customerId s.db).summary.overallProgress

/-- Nothing was paid of the contracts in scope that are not counted, and nothing of the others
before their totals were set. -/
def NothingBeside (s : Portfolio) (scope : ContractFilter) : Prop :=
  ∀ c ∈ s.db.financingContracts.rows, scope c = true →
    (if c.status.counted then s.before c.contractId
      else FinancingService.paidAmount c.contractId s.db) = 0

instance (s : Portfolio) (scope : ContractFilter) : Decidable (s.NothingBeside scope) :=
  inferInstanceAs (Decidable (∀ c ∈ s.db.financingContracts.rows, _ → _))

/-- Prices are not negative, the totals that are scheduled are of whole kobo, and no payment is of
a VOIDED installment. -/
def Plain (s : Portfolio) : PortfolioStep → Prop
  | .submitApplication _ _ params _ m =>
    ∀ offer ∈ (KycService.findOffer params s.db).toOption,
      0 ≤ (KycService.newContract params offer.1 offer.2 m).totalFinanced
  | .receivable (.approveApplication applicationId _ _) =>
    ∀ c ∈ KycService.contractOf applicationId s.db, c.totalFinanced ∈ kobo
  | .receivable (.processPayment verifyPaystack job paymentId commissionId now) =>
    ∀ i ∈ PaymentWorker.recorded? verifyPaystack job paymentId commissionId now s.db,
      i.installment.status ≠ .voided
  | .receivable (.operation (.restructure offset id adminUserId newTerms installmentId now)) =>
    (FinancingService.restructureContract offset id adminUserId newTerms installmentId now
      s.db).isOk = true →
    ∀ terms ∈ (RestructureContractSchema.parse newTerms).toOption,
    ∀ c ∈ s.db.financingContracts.find? id,
      FinancingService.newTotalFinanced c terms s.db ∈ kobo
  | _ => True

instance (s : Portfolio) : ∀ e : PortfolioStep, Decidable (s.Plain e)
  | .submitApplication _ _ params _ _ =>
    inferInstanceAs (Decidable (∀ offer ∈ (KycService.findOffer params s.db).toOption, _))
  | .rejectApplication _ _ _ _ => inferInstanceAs (Decidable True)
  | .receivable (.approveApplication applicationId _ _) =>
    inferInstanceAs (Decidable (∀ c ∈ KycService.contractOf applicationId s.db, _))
  | .receivable (.processPayment verifyPaystack job paymentId commissionId now) =>
    inferInstanceAs (Decidable (∀ i ∈ PaymentWorker.recorded? verifyPaystack job paymentId
      commissionId now s.db, _))
  | .receivable (.operation (.restructure _ id _ newTerms _ _)) =>
    inferInstanceAs (Decidable (_ → ∀ terms ∈ (RestructureContractSchema.parse newTerms).toOption,
      ∀ c ∈ s.db.financingContracts.find? id, _))
  | .receivable (.operation (.writeOff _ _ _ _)) | .receivable (.operation (.pendingToDue _))
  | .receivable (.operation (.dueToOverdue _)) | .receivable (.operation (.markDefaulted _ _)) =>
    inferInstanceAs (Decidable True)

end Portfolio

/-- Nothing is scheduled of the contract, which is not live. -/
structure Unscheduled (contractId : String) (s : WriteOffHistory) : Prop where
  rows : rowTerms contractId s.db = []
  stray : s.stray = 0
  status : ∀ c ∈ s.db.financingContracts.find? contractId,
    c.status.live = false ∧ (c.status = .pendingActivation → 0 ≤ c.totalFinanced)

/-- The contract was activated, and while it is live its total is of whole kobo. -/
structure Scheduled (contractId : String) (s : WriteOffHistory) : Prop where
  paidOrOwed : PaidOrOwed contractId s
  contract : ∃ c ∈ s.db.financingContracts.find? contractId, c.status ≠ .pendingActivation ∧
    (c.status.live = true → c.totalFinanced ∈ kobo)

def Tracked (contractId : String) (s : WriteOffHistory) : Prop :=
  Unscheduled contractId s ∨ Scheduled contractId s

/-- One contract of the portfolio, with what its total leaves out -/
def Portfolio.historyOf (s : Portfolio) (contractId : String) : WriteOffHistory :=
  ⟨s.db, s.before contractId⟩

def Portfolio.Booked (s : Portfolio) : Prop :=
  ∀ contractId, Tracked contractId (s.historyOf contractId)

theorem FinancingStatus.counted_cases {status : FinancingStatus} (h : status.counted = true) :
    status = .pendingActivation ∨ status.live = true := by
  cases status with
  | pendingActivation => exact .inl rfl
  | active | restructured => exact .inr rfl
  | completed | defaulted | cancelled | rejected | writtenOff => cases h

section overview
variable {s : Portfolio} {contractId : String} {c : FinancingContract} {t : WriteOffHistory}

theorem Unscheduled.paidAmount_eq (h : Unscheduled contractId t) :
    FinancingService.paidAmount contractId t.db = 0 := by
  have hamounts : ∀ r ∈ rowTerms contractId t.db, r.2 ∈ kobo ∧ 0 ≤ r.2 := by
    intro r hr
    rw [h.rows] at hr
    exact absurd hr List.not_mem_nil
  have hpaid := (paidAmount_mem_kobo hamounts).2
  have howed := (AmountsNonneg.of_terms hamounts).owed_nonneg
  have hstanding := standing_of_unscheduled h.rows
  rw [standing_eq] at hstanding
  linarith

theorem Scheduled.paidAmount_le (h : Scheduled contractId t)
    (hc : t.db.financingContracts.find? contractId = some c) (hcounted : c.status.counted = true) :
    FinancingService.paidAmount contractId t.db - t.stray ≤ c.totalFinanced := by
  obtain ⟨c', hc', hactive, hwhole⟩ := h.contract
  obtain rfl := Option.some.inj (hc.symm.trans hc')
  have hlive := (FinancingStatus.counted_cases hcounted).resolve_left hactive
  have hbalance := h.paidOrOwed.balance c hc hlive
  rw [standing_eq, InstallmentService.roundedTotal_eq_iff.mpr (hwhole hlive)] at hbalance
  have howed := (AmountsNonneg.of_terms h.paidOrOwed.amounts).owed_nonneg
  linarith

/-- What is PAID of a contract is not negative, nor what was PAID when its total was set; of what
is counted no more is PAID since then than its total. -/
theorem Portfolio.Booked.amounts (h : s.Booked)
    (hc : s.db.financingContracts.find? contractId = some c) :
    0 ≤ FinancingService.paidAmount contractId s.db ∧ 0 ≤ s.before contractId ∧
      (c.status.counted = true → s.paidSince contractId ≤ c.totalFinanced) := by
  rcases h contractId with hnone | hrows
  · have hpaid : FinancingService.paidAmount contractId s.db = 0 := hnone.paidAmount_eq
    have hstray : s.before contractId = 0 := hnone.stray
    refine ⟨hpaid.ge, hstray.ge, fun hcounted => ?_⟩
    obtain ⟨hdead, htotal⟩ := hnone.status c hc
    have hpending := (FinancingStatus.counted_cases hcounted).resolve_right (by rw [hdead]; decide)
    rw [Portfolio.paidSince, hstray, hpaid, sub_zero]
    exact htotal hpending
  · exact ⟨(paidAmount_mem_kobo hrows.paidOrOwed.amounts).2, hrows.paidOrOwed.stray.2,
      hrows.paidAmount_le hc⟩

theorem sumInstallments_paid (scope : ContractFilter) (db : Database) :
    AnalyticsService.sumInstallments scope [.paid] db =
      db.financingContracts.sumWhere scope fun c =>
        FinancingService.paidAmount c.contractId db := by
  have hpaid : ∀ q : Installment → Bool,
      (db.installments.rows.filter fun i => i.status = .paid).filter q =
        db.installments.rows.filter fun i => q i ∧ i.status = .paid := by
    intro q
    rw [List.filter_filter]
    exact List.filter_congr fun i _ => by rw [Bool.decide_and, Bool.decide_eq_true]
  have hjoin := Table.sumWhere_join db.financingContracts
    (db.installments.rows.filter fun i => i.status = .paid) Installment.financingContractId scope
    Installment.amount
  simp only [hpaid, decide_eq_true_eq] at hjoin
  rw [AnalyticsService.sumInstallments, Table.sumWhere]
  simp only [List.mem_singleton, and_comm (a := Installment.status _ = _)]
  exact hjoin

namespace Portfolio

/-- What is PAID in scope and taken from the totals of other contracts -/
def beside (s : Portfolio) (scope : ContractFilter) : ℚ :=
  s.db.financingContracts.sumWhere scope fun c =>
    if c.status.counted then s.before c.contractId
    else FinancingService.paidAmount c.contractId s.db

theorem balance_add_beside (s : Portfolio) (scope : ContractFilter) :
    AnalyticsService.totalFinanced scope s.db -
      AnalyticsService.sumInstallments scope [.paid] s.db + s.beside scope = s.unpaid scope := by
  rw [sub_add_eq_add_sub, sub_eq_iff_eq_add, sumInstallments_paid, AnalyticsService.totalFinanced,
    beside, unpaid, Table.sumWhere_eq_sum_term, Table.sumWhere_eq_sum_term,
    Table.sumWhere_eq_sum_term, Table.sumWhere_eq_sum_term, ← List.sum_map_add, ← List.sum_map_add]
  refine congrArg List.sum (List.map_congr_left fun c _ => ?_)
  cases hscope : scope c with
  | false => simp [Table.term, hscope]
  | true =>
    cases hcounted : c.status.counted with
    | false => simp [Table.term, hscope, hcounted]
    | true =>
      have hterm : c.totalFinanced + s.before c.contractId =
          c.totalFinanced - s.paidSince c.contractId +
            FinancingService.paidAmount c.contractId s.db := by
        rw [paidSince]
        ring
      simpa [Table.term, hscope, hcounted] using hterm

theorem Booked.beside_nonneg (h : s.Booked) : ∀ c ∈ s.db.financingContracts.rows,
    0 ≤ if c.status.counted then s.before c.contractId
      else FinancingService.paidAmount c.contractId s.db := by
  intro c hc
  obtain ⟨hpaid, hbefore, -⟩ := h.amounts (Table.find?_of_mem hc)
  split
  · exact hbefore
  · exact hpaid

theorem Booked.beside_eq_zero_iff (h : s.Booked) (scope : ContractFilter) :
    s.beside scope = 0 ↔ s.NothingBeside scope := by
  exact Table.sumWhere_eq_zero_iff (t := s.db.financingContracts) fun c hc _ => h.beside_nonneg c hc

theorem Booked.unpaid_nonneg (h : s.Booked) (scope : ContractFilter) : 0 ≤ s.unpaid scope := by
  refine Table.sumWhere_nonneg fun c hc hcounted => ?_
  exact sub_nonneg.mpr ((h.amounts (Table.find?_of_mem hc)).2.2 (of_decide_eq_true hcounted).2)

theorem Booked.sumInstallments_nonneg (h : s.Booked) (scope : ContractFilter) :
    0 ≤ AnalyticsService.sumInstallments scope [.paid] s.db := by
  rw [sumInstallments_paid]
  exact Table.sumWhere_nonneg fun c hc _ => (h.amounts (Table.find?_of_mem hc)).1

theorem percentage_le_hundred {totalPaid totalFinanced : ℚ} (hnonneg : 0 ≤ totalPaid)
    (hle : totalPaid ≤ totalFinanced) :
    AnalyticsService.percentage totalPaid totalFinanced ≤ 100 := by
  rw [AnalyticsService.percentage]
  split
  · rename_i hpos
    have hone := (div_le_one hpos).mpr hle
    exact (roundCents_bounds (mul_nonneg (div_nonneg hnonneg hpos.le) (by norm_num))
      (by linarith)).2
  · norm_num

/-- A balance is real where nothing is taken from it for other contracts. -/
theorem Booked.realBalance_iff (h : s.Booked) (scope : ContractFilter) :
    s.RealBalance scope
        (AnalyticsService.totalFinanced scope s.db -
          AnalyticsService.sumInstallments scope [.paid] s.db)
        (AnalyticsService.percentage (AnalyticsService.sumInstallments scope [.paid] s.db)
          (AnalyticsService.totalFinanced scope s.db)) ↔
      s.NothingBeside scope := by
  have hbalance := s.balance_add_beside scope
  rw [← h.beside_eq_zero_iff]
  constructor
  · intro hreal
    have hunpaid := hreal.unpaid
    linarith
  · intro hzero
    have hnonneg := h.unpaid_nonneg scope
    rw [hzero, add_zero] at hbalance
    refine ⟨hbalance, hbalance ▸ hnonneg, percentage_le_hundred (h.sumInstallments_nonneg scope) ?_⟩
    linarith

end Portfolio

end overview

section steps
variable {contractId : String} {s : Portfolio} {t t' : WriteOffHistory}

theorem Unscheduled.of_sameTerms (h : Unscheduled contractId t)
    (hterms : PaidOrOwed.SameTerms contractId t.db t'.db) (hstray : t'.stray = t.stray) :
    Unscheduled contractId t' := by
  refine ⟨hterms.1.trans h.rows, hstray.trans h.stray, fun c' hc' => ?_⟩
  obtain ⟨c, hc, htotal, hsame | ⟨-, hne, hlives⟩⟩ := hterms.2 c' hc'
  · rw [hsame, htotal]
    exact h.status c hc
  · refine ⟨Bool.eq_false_iff.mpr fun hlive => ?_, fun hpending => absurd hpending hne⟩
    have hbefore := hlives hlive
    rw [(h.status c hc).1] at hbefore
    cases hbefore

theorem Scheduled.of_sameTerms (h : Scheduled contractId t) (hpaid : PaidOrOwed contractId t')
    (hterms : PaidOrOwed.SameTerms contractId t.db t'.db)
    (hsome : (t'.db.financingContracts.find? contractId).isSome = true) :
    Scheduled contractId t' := by
  refine ⟨hpaid, ?_⟩
  obtain ⟨c', hc'⟩ := Option.isSome_iff_exists.mp hsome
  obtain ⟨c₀, hc₀, hactive, hwhole⟩ := h.contract
  obtain ⟨c, hc, htotal, hstatus⟩ := hterms.2 c' hc'
  obtain rfl := Option.some.inj (hc₀.symm.trans hc)
  refine ⟨c', hc', ?_⟩
  rw [htotal]
  rcases hstatus with hsame | ⟨-, hne, hlives⟩
  · rw [hsame]
    exact ⟨hactive, hwhole⟩
  · exact ⟨hne, fun hlive => hwhole (hlives hlive)⟩

namespace Tracked

theorem of_sameTerms {e : ReceivableStep} (h : Tracked contractId t)
    (hterms : PaidOrOwed.SameTerms contractId t.db (e.apply t.db))
    (hstray : t.strayAfter contractId e = t.stray) :
    Tracked contractId (writeOffStep contractId t e) := by
  rcases h with hnone | hrows
  · exact .inl (hnone.of_sameTerms hterms hstray)
  · obtain ⟨c, hc, -⟩ := hrows.contract
    exact .inr (hrows.of_sameTerms (paidOrOwed_step hrows.paidOrOwed e) hterms
      (e.isSome_apply (Option.isSome_iff_exists.mpr ⟨c, hc⟩)))

theorem rowTerms_of_pending (h : Tracked contractId t) :
    ∀ c ∈ t.db.financingContracts.find? contractId, c.status = .pendingActivation →
      rowTerms contractId t.db = [] := by
  intro c hc hpending
  rcases h with hnone | hrows
  · exact hnone.rows
  · exact (hrows.paidOrOwed.unscheduled c hc hpending).1

theorem approve {applicationId reviewerId : String} {m : KycMoment} (h : Tracked contractId t)
    (hwhole : ∀ c ∈ KycService.contractOf applicationId t.db, c.totalFinanced ∈ kobo) :
    Tracked contractId
      (writeOffStep contractId t (.approveApplication applicationId reviewerId m)) := by
  cases hcall : KycService.approveApplication applicationId reviewerId m t.db with
  | error err =>
    rw [writeOffStep, ReceivableStep.apply, hcall]
    exact h
  | ok result =>
    have happly : (ReceivableStep.approveApplication applicationId reviewerId m).apply t.db =
        result.2 := by
      rw [ReceivableStep.apply, hcall, committed_ok]
    rcases KycService.approveApplication_cases hcall with
      ⟨-, r, contract, -, -, hfound, hactivates⟩ | ⟨-, hinstallments, hcontracts⟩
    · have hfind := find?_contract_activates contractId hactivates
      by_cases hid : contract.contractId = contractId
      · subst hid
        rcases h with hnone | hrows
        · rw [if_pos rfl] at hfind
          have hcontract : t.db.financingContracts.find? contract.contractId = some contract :=
            Table.find?_of_mem (KycService.contractOf_eq_some hfound).1
          refine .inr ⟨?_, KycService.activatedContract m.userId m.now contract, ?_,
            FinancingStatus.noConfusion, fun _ => hwhole contract hfound⟩
          · rw [writeOffStep, happly]
            exact .of_activates hnone.rows hnone.stray hfound hactivates
          · rw [writeOffStep, happly]
            exact hfind.trans (congrArg _ hcontract)
        · obtain ⟨c, hc, hactive, -⟩ := hrows.contract
          have hfirst := hrows.paidOrOwed.started c hc hactive
          rw [(hrows.paidOrOwed.unscheduled_of_activates hfound hactivates).1] at hfirst
          exact absurd hfirst List.not_mem_nil
      · obtain ⟨schedule, -, -, -, hterms⟩ := rowTerms_activates contractId hactivates
        rw [if_neg hid, List.append_nil] at hterms
        rw [if_neg fun he => hid he.symm] at hfind
        exact h.of_sameTerms (happly ▸ ⟨hterms, .of_eq hfind⟩) rfl
    · refine h.of_sameTerms ?_ rfl
      rw [happly]
      exact ⟨by rw [rowTerms, hinstallments, rowTerms], .of_eq (by rw [hcontracts])⟩

theorem restructure {offset : ℕ} {id adminUserId : String} {newTerms : RestructureInput}
    {installmentId : ℕ → String} {now : DateTime} (h : Tracked contractId t) (hwhole : (FinancingService.restructureContract offset id adminUserId newTerms installmentId now
      t.db).isOk = true → ∀ terms ∈ (RestructureContractSchema.parse newTerms).toOption,
      ∀ c ∈ t.db.financingContracts.find? id,
        FinancingService.newTotalFinanced c terms t.db ∈ kobo) :
    Tracked contractId (writeOffStep contractId t
      (.operation (.restructure offset id adminUserId newTerms installmentId now))) := by
  cases hcall : FinancingService.restructureContract offset id adminUserId newTerms installmentId now
      t.db with
  | error err =>
    refine h.of_sameTerms ?_ ?_
    · rw [ReceivableStep.apply, ContractOperation.apply, hcall]
      exact ⟨rfl, .of_eq rfl⟩
    · simp [WriteOffHistory.strayAfter, hcall, Except.isOk, Except.toBool]
  | ok result =>
    obtain ⟨terms, o, schedule, hparse, hr⟩ := FinancingService.restructureContract_eq_ok hcall
    have happly : (ReceivableStep.operation
        (.restructure offset id adminUserId newTerms installmentId now)).apply t.db = result.2 := by
      rw [ReceivableStep.apply, ContractOperation.apply, hcall, committed_ok]
    by_cases hid : id = contractId
    · subst hid
      obtain ⟨hcontract, hdefaulted⟩ := FinancingService.findForRestructure_eq_ok hr.found
      have hafter := find?_contract_closes id hr.closes
      rw [if_pos rfl, hcontract, Option.map_some] at hafter
      rcases h with hnone | hrows
      · have hlive := (hnone.status o.contract hcontract).1
        rw [hdefaulted] at hlive
        cases hlive
      · refine .inr ⟨paidOrOwed_step hrows.paidOrOwed _, _, happly ▸ hafter,
          FinancingStatus.noConfusion, fun _ => ?_⟩
        exact hwhole (by rw [hcall]; rfl) terms (by rw [hparse]; rfl) o.contract hcontract
    · refine h.of_sameTerms ?_ (if_neg fun hboth => hid hboth.1)
      rw [happly]
      exact PaidOrOwed.sameTerms_closes_other hid hr.closes fun i hi => (restructured_rows hr hi).1.1

theorem writeOff {id companyUserId reason : String} {now : DateTime} (h : Tracked contractId t) :
    Tracked contractId
      (writeOffStep contractId t (.operation (.writeOff id companyUserId reason now))) := by
  refine h.of_sameTerms ?_ rfl
  rw [ReceivableStep.apply, ContractOperation.apply]
  cases hcall : FinancingService.writeOffContract id companyUserId reason now t.db with
  | error err => exact ⟨rfl, .of_eq rfl⟩
  | ok result => exact PaidOrOwed.sameTerms_writeOff hcall

end Tracked

namespace Portfolio

/-- What is stray of a plain step is what was paid before another total is set. -/
theorem strayAfter_eq {e : ReceivableStep} (hplain : s.Plain (.receivable e))
    (contractId : String) : (s.historyOf contractId).strayAfter contractId e =
      s.beforeAfter (.receivable e) contractId := by
  cases e with
  | approveApplication applicationId reviewerId m => rfl
  | processPayment verifyPaystack job paymentId commissionId now =>
    change s.before contractId + _ = s.before contractId
    rcases processPayment_cases verifyPaystack job paymentId commissionId now s.db with
      ⟨hnone, -⟩ | ⟨i, hsome, -⟩
    · simp [historyOf, hnone]
    · have hstands : i.installment.status ≠ .voided := hplain i hsome
      simp [historyOf, hsome, Option.filter_some, hstands]
  | operation op =>
    cases op with
    | pendingToDue now => rfl
    | dueToOverdue now => rfl
    | markDefaulted id late => rfl
    | writeOff id companyUserId reason now => rfl
    | restructure offset id adminUserId newTerms installmentId now =>
      rw [beforeAfter]
      by_cases hok : (FinancingService.restructureContract offset id adminUserId newTerms
          installmentId now s.db).isOk = true
      · rw [if_pos hok]
        by_cases hid : id = contractId
        · subst hid
          rw [Function.update_self]
          exact if_pos ⟨rfl, hok⟩
        · rw [Function.update_of_ne fun he => hid he.symm]
          exact if_neg fun hboth => hid hboth.1
      · rw [if_neg hok]
        exact if_neg fun hboth => hok hboth.2

theorem historyOf_receivable {e : ReceivableStep} (hplain : s.Plain (.receivable e))
    (contractId : String) : (portfolioStep s (.receivable e)).historyOf contractId =
      writeOffStep contractId (s.historyOf contractId) e := by
  rw [writeOffStep, strayAfter_eq hplain]
  rfl

namespace Booked

theorem receivable (h : s.Booked) (e : ReceivableStep) (hplain : s.Plain (.receivable e)) :
    (portfolioStep s (.receivable e)).Booked := by
  intro contractId
  rw [historyOf_receivable hplain]
  have hstray := strayAfter_eq hplain contractId
  cases e with
  | approveApplication applicationId reviewerId m => exact (h contractId).approve hplain
  | processPayment verifyPaystack job paymentId commissionId now =>
    exact (h contractId).of_sameTerms (PaidOrOwed.sameTerms_payment
      (h contractId).rowTerms_of_pending verifyPaystack job paymentId commissionId now) hstray
  | operation op =>
    cases op with
    | pendingToDue now =>
      exact (h contractId).of_sameTerms (PaidOrOwed.sameTerms_transition contractId .pending .due
        (fun dueDate => dueDate ≤ PaymentReminderWorker.todayStart now) s.db) rfl
    | dueToOverdue now =>
      exact (h contractId).of_sameTerms (PaidOrOwed.sameTerms_transition contractId .due
        .overdue (fun dueDate => dueDate <
          PaymentReminderWorker.todayStart now - 3 * PaymentReminderWorker.dayMs) s.db) rfl
    | markDefaulted id late =>
      exact (h contractId).of_sameTerms
        (PaidOrOwed.sameTerms_markDefaulted contractId id late s.db) rfl
    | restructure offset id adminUserId newTerms installmentId now =>
      exact (h contractId).restructure hplain
    | writeOff id companyUserId reason now => exact (h contractId).writeOff

/-- What leaves the installments alone books a contract as before that it keeps. -/
theorem of_installments {db' : Database} (h : s.Booked)
    (hinstallments : db'.installments = s.db.installments)
    (hnone : ∀ contractId, Unscheduled contractId (s.historyOf contractId) →
      ∀ c ∈ db'.financingContracts.find? contractId,
        c.status.live = false ∧ (c.status = .pendingActivation → 0 ≤ c.totalFinanced))
    (hrows : ∀ contractId, Scheduled contractId (s.historyOf contractId) →
      (db'.financingContracts.find? contractId).isSome = true ∧
        PaidOrOwed.Keeps contractId s.db db') : Portfolio.Booked { s with db := db' } := by
  intro contractId
  have hterms : rowTerms contractId db' = rowTerms contractId s.db := by
    rw [rowTerms, hinstallments, rowTerms]
  rcases h contractId with hunscheduled | hscheduled
  · exact .inl ⟨hterms.trans hunscheduled.rows, hunscheduled.stray, hnone contractId hunscheduled⟩
  · obtain ⟨hsome, hkeeps⟩ := hrows contractId hscheduled
    refine .inr (hscheduled.of_sameTerms ?_ ⟨hterms, hkeeps⟩ hsome)
    refine hscheduled.paidOrOwed.of_same hterms ?_ rfl hkeeps
    change standing contractId db' = standing contractId s.db
    rw [standing, hinstallments, standing]

theorem submitApplication (h : s.Booked) {storage : Storage} {sessionId : String}
    {params : SubmitApplication} {file : UploadedPdfFile} {m : KycMoment}
    (hplain : s.Plain (.submitApplication storage sessionId params file m)) :
    (portfolioStep s (.submitApplication storage sessionId params file m)).Booked := by
  cases hcall : KycService.submitApplication storage sessionId params file m s.db with
  | error err =>
    rw [portfolioStep, PortfolioStep.apply, hcall]
    exact h
  | ok result =>
    obtain ⟨session, plan, variant, applications, contracts, assets, trail, -, hoffer, -, -, hcreate,
      -, hdb⟩ := KycService.submitApplication_eq_ok hcall
    rw [portfolioStep, PortfolioStep.apply, hcall, committed_ok, hdb]
    refine h.of_installments rfl (fun contractId hnone c hc => ?_) fun contractId hrows => ?_
    · have hc := (Table.find?_create hcreate contractId).symm.trans hc
      split at hc
      · obtain rfl := Option.some.inj hc
        exact ⟨rfl, fun _ => hplain (plan, variant) (by rw [hoffer]; rfl)⟩
      · exact hnone.status c hc
    · obtain ⟨c, hc, -⟩ := hrows.contract
      have hc : s.db.financingContracts.find? contractId = some c := hc
      have hkept := Table.find?_of_create hcreate hc
      exact ⟨Option.isSome_iff_exists.mpr ⟨c, hkept⟩, .of_eq (hkept.trans hc.symm)⟩

theorem rejectApplication (h : s.Booked) (applicationId adminId reason : String) (m : KycMoment) :
    (portfolioStep s (.rejectApplication applicationId adminId reason m)).Booked := by
  cases hcall : KycService.rejectApplication applicationId adminId reason m s.db with
  | error err =>
    rw [portfolioStep, PortfolioStep.apply, hcall]
    exact h
  | ok db' =>
    obtain ⟨admin, loaded, -, -, -, -, -, hdb⟩ := KycService.rejectApplication_eq_ok hcall
    rw [portfolioStep, PortfolioStep.apply, hcall, committed_ok, hdb]
    have hfind (contractId : String) := Table.find?_updateMany s.db.financingContracts
      (fun c => c.kycApplicationId = loaded.application.kycApplicationId)
      (KycService.rejectedContract m.now) (fun _ => rfl) contractId
    refine h.of_installments rfl (fun contractId hnone c' hc' => ?_) fun contractId hrows => ?_
    · obtain ⟨c, hc, rfl⟩ := Option.map_eq_some_iff.mp ((hfind contractId).symm.trans hc')
      split
      · exact ⟨rfl, FinancingStatus.noConfusion⟩
      · exact hnone.status c hc
    · obtain ⟨c, hc, hactive, -⟩ := hrows.contract
      have hc : s.db.financingContracts.find? contractId = some c := hc
      have hafter := hfind contractId
      rw [hc, Option.map_some] at hafter
      refine ⟨Option.isSome_iff_exists.mpr ⟨_, hafter⟩, fun c' hc' => ⟨c, hc, ?_⟩⟩
      obtain rfl := Option.some.inj (hafter.symm.trans hc')
      split
      · exact ⟨rfl, .inr ⟨hactive, FinancingStatus.noConfusion, fun hlive => by cases hlive⟩⟩
      · exact ⟨rfl, .inl rfl⟩

theorem step (h : s.Booked) (e : PortfolioStep) (hplain : s.Plain e) :
    (portfolioStep s e).Booked := by
  cases e with
  | submitApplication storage sessionId params file m => exact h.submitApplication hplain
  | rejectApplication applicationId adminId reason m =>
    exact h.rejectApplication applicationId adminId reason m
  | receivable e => exact h.receivable e hplain

end Booked
end Portfolio
end steps

/-- Two contracts of one company, of 100 and of 50 -/
def firmContracts : Database :=
  { twoContracts with
    products := ⟨[{ productId := "oven", companyId := some "firm" }], List.nodup_singleton _⟩
    financingContracts := ⟨[{ contractId := "new", userId := none, productId := "oven"
                              kycApplicationId := "app", approvedDurationMonths := 2
                              totalFinanced := 100, status := .pendingActivation },
      { contractId := "next", userId := none, productId := "oven", kycApplicationId := "app₂"
        totalFinanced := 50, status := .pendingActivation }], by decide⟩ }

end InstalFlow
