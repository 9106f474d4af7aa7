import InstalFlow.OldestInstallment
import InstalFlow.PaymentOpening
import InstalFlow.Relational.Fresh

/-!
# Payments one after another

A customer pays the lowest installment of a contract that is neither PAID nor VOIDED: the
payment is opened, Paystack takes the charge, and the job for it is processed. Each payment
leaves one outstanding installment less, until the last one completes the contract.
-/

namespace InstalFlow
open Relational Transition

/-- The opening of a payment, what Paystack answers when the charge is verified, and the ids
and the time of the job -/
structure PaymentRound where
  opening : Moment
  verifyPaystack : String → Except String Verification
  paymentId : String
  commissionId : String
  now : DateTime

namespace PaymentRound

def pay (e : PaymentRound) (installmentId customerId : String) (db : Database) :
    Except AppError Database :=
  match (IntentProgram.initializeInstallmentPayment installmentId customerId).complete e.opening
      db with
  | (_, .error err) => .error err
  | (db, .ok link) =>
    (PaymentWorker.process e.verifyPaystack ⟨installmentId, link.reference⟩ e.paymentId
      e.commissionId e.now db).map Prod.snd

/-- The charge of an opened payment: Paystack takes it, under references that are new. -/
structure Charged (e : PaymentRound) (response : ProviderResponse) (v : Verification)
    (db : Database) : Prop where
  verified : e.verifyPaystack response.reference = .ok v
  success : v.status = "success"
  reference : ∀ n ∈ db.paymentIntents.rows, n.reference ≠ some response.reference
  idempotencyKey : ∀ p ∈ db.payments.rows, p.idempotencyKey ≠ some response.reference
  gatewayRef : ∀ p ∈ db.payments.rows,
    p.providerReference ≠ some (PaymentWorker.gatewayRef v response.reference)

/-- No intent is open for the installment, what is charged is paid, and the ids are new. -/
structure Undisturbed (e : PaymentRound) (installmentId : String) (db : Database) : Prop where
  uuid : IntentProgram.FreshUuid e.opening db
  unopened : IntentProgram.NoOpenIntent (IntentProgram.installmentKey installmentId) db
  charged : ∀ email amount, ∃ response v,
    e.opening.initializeTransaction email amount = .ok response ∧ e.Charged response v db
  paymentId : db.payments.find? e.paymentId = none
  commissionId : db.commissions.find? e.commissionId = none

end PaymentRound

namespace PaymentWorker
variable {i : LoadedInstallment} {intent : PaymentIntent} {v : Verification} {now : DateTime}
  {reference paymentId commissionId : String} {db : Database}

theorem balanced_paymentEntries (amount commission : ℚ) :
    LedgerService.totalDebits (paymentEntries amount commission) =
      LedgerService.totalCredits (paymentEntries amount commission) := by
  simp only [paymentEntries, LedgerService.totalDebits, LedgerService.totalCredits]
  split <;> split <;> simp

theorem recordPayment_of_unused (installment : Installment)
    (hkey : ∀ p ∈ db.payments.rows, p.idempotencyKey ≠ some reference) {gatewayRef : String}
    (hgateway : ∀ p ∈ db.payments.rows, p.providerReference ≠ some gatewayRef)
    (hid : db.payments.find? paymentId = none) :
    ∃ payment payments, recordPayment installment reference gatewayRef paymentId db =
      .ok (payment, { db with payments }) := by
  have hexisting : db.payments.rows.find? (fun p => p.installmentId = installment.installmentId ∧
      p.idempotencyKey = some reference ∧ p.status = .pending) = none := by
    refine List.find?_eq_none.mpr fun p hp hmatch => ?_
    exact hkey p hp (of_decide_eq_true hmatch).2.1
  have htaken : providerReferenceTaken paymentId gatewayRef db = false := by
    refine List.any_eq_false.mpr fun p hp hmatch => ?_
    exact hgateway p hp (of_decide_eq_true hmatch).1
  have hunique : db.payments.rows.any (fun p => p.idempotencyKey = some reference) = false := by
    refine List.any_eq_false.mpr fun p hp hmatch => ?_
    exact hkey p hp (of_decide_eq_true hmatch)
  let payment : Payment :=
    { paymentId, installmentId := installment.installmentId, amount := installment.amount
      status := .success, providerReference := some gatewayRef
      idempotencyKey := some reference }
  obtain ⟨payments, hcreate⟩ := Table.create_isSome (t := db.payments) (r := payment) hid
  refine ⟨payment, payments, ?_⟩
  rw [recordPayment, hexisting]
  simp only [htaken, hunique, Bool.false_eq_true, if_false]
  rw [createRow_eq_ok.mpr hcreate]

theorem accrueCommission_of_unused (i : LoadedInstallment) (paymentId : String) (now : DateTime)
    (hid : db.commissions.find? commissionId = none) :
    ∃ record commissions, accrueCommission i paymentId commissionId now db =
      .ok (record, { db with commissions }) := by
  rw [accrueCommission]
  cases accrual i with
  | none => exact ⟨none, db.commissions, rfl⟩
  | some credit =>
    let commission : Commission :=
      { commissionId, userId := credit.1, paymentId := some paymentId, amount := credit.2
        status := .active, createdAt := now }
    obtain ⟨commissions, hcreate⟩ := Table.create_isSome (t := db.commissions) (r := commission) hid
    refine ⟨some commission, commissions, ?_⟩
    simp only [createRow_eq_ok.mpr hcreate, commission]

theorem ignoreConflict_markSuccess_isOk (h : intent ∈ db.paymentIntents.rows) (now : DateTime) :
    ∃ db', PaymentIntentService.ignoreConflict db
      (PaymentIntentService.markSuccess intent.intentId now db) = .ok db' := by
  rw [PaymentIntentService.markSuccess, PaymentIntentService.transitionStatus,
    Table.find?_of_mem h]
  cases hterminal : intent.status.terminal with
  | true => exact ⟨db, by simp only [hterminal, if_true]; rfl⟩
  | false => exact ⟨_, by simp only [hterminal, Bool.false_eq_true, if_false]; rfl⟩

/-- A job whose charge is paid, under references that are new, commits. -/
theorem process_isOk {verifyPaystack : String → Except String Verification} (job : PaymentJobData)
    (hload : loadInstallment job.installmentId db = some i) (hunpaid : i.installment.status ≠ .paid)
    (hintent : ∃ n ∈ db.paymentIntents.rows, n.reference = some job.reference)
    (hverify : verifyPaystack job.reference = .ok v) (hsuccess : v.status = "success")
    (hkey : ∀ p ∈ db.payments.rows, p.idempotencyKey ≠ some job.reference)
    (hgateway : ∀ p ∈ db.payments.rows, p.providerReference ≠ some (gatewayRef v job.reference))
    (hpayment : db.payments.find? paymentId = none)
    (hcommission : db.commissions.find? commissionId = none) (now : DateTime) :
    ∃ result, process verifyPaystack job paymentId commissionId now db = .ok result := by
  obtain ⟨intent, hfind⟩ : ∃ intent,
      PaymentIntentService.findByReference job.reference db = some intent := by
    obtain ⟨n, hn, href⟩ := hintent
    exact Option.isSome_iff_exists.mp (List.find?_isSome.mpr ⟨n, hn, decide_eq_true href⟩)
  obtain ⟨payment, payments, hrecord⟩ :=
    recordPayment_of_unused i.installment hkey hgateway hpayment
  let marked := markInstallmentPaid i.installment.installmentId now { db with payments }
  obtain ⟨record, commissions, haccrue⟩ : ∃ record commissions,
      accrueCommission i payment.paymentId commissionId now marked =
        .ok (record, { marked with commissions }) :=
    accrueCommission_of_unused i payment.paymentId now hcommission
  let accrued : Database := { marked with commissions }
  obtain ⟨ledger, hledger⟩ : ∃ ledger, LedgerService.recordTransaction
      (paymentPosting i job.reference) accrued.ledger = .ok ledger := by
    have hbalanced := balanced_paymentEntries i.installment.amount (commissionAmount i)
    exact ⟨_, if_neg (not_not.mpr hbalanced)⟩
  have hpost : post (paymentPosting i job.reference) accrued = .ok { accrued with ledger } := by
    rw [post, hledger]
  let completed := if (nextPending i.contract.contractId { accrued with ledger }).isNone then
    completeContract i.contract.contractId now { accrued with ledger } else { accrued with ledger }
  have hintents : completed.paymentIntents = db.paymentIntents := by
    dsimp only [completed]
    split <;> rfl
  have hstored : intent ∈ completed.paymentIntents.rows := by
    rw [hintents]
    exact (PaymentIntentService.of_findByReference hfind).1
  obtain ⟨db', hmark⟩ := ignoreConflict_markSuccess_isOk hstored now
  obtain ⟨result, htransaction⟩ : ∃ result,
      transaction i intent v job.reference paymentId commissionId now db = .ok (result, db') :=
    ⟨_, bind_eq_ok.mpr ⟨_, hrecord, bind_eq_ok.mpr ⟨_, haccrue, bind_eq_ok.mpr ⟨_, hpost,
      bind_eq_ok.mpr ⟨_, hmark, rfl⟩⟩⟩⟩⟩
  refine ⟨(.recorded result, db'), ?_⟩
  rw [process, hload]
  simp only [hunpaid, if_false, hfind, hverify, hsuccess, ne_eq, not_true_eq_false, htransaction]

end PaymentWorker

/-- The contract is the customer's, who has an e-mail, and its application names the two. -/
structure PayableBy (c : FinancingContract) (customer : User) (db : Database) : Prop where
  userId : c.userId = some customer.userId
  user : db.users.find? customer.userId = some customer
  email : isBlank customer.email = false
  application : ∃ a ∈ db.kycApplications.find? c.kycApplicationId,
    a.userId = some customer.userId ∧ (db.products.find? a.productId).isSome = true
  product : (db.products.find? c.productId).isSome = true

/-- The installments of a contract that are neither PAID nor VOIDED -/
def outstandingOf (contractId : String) (db : Database) : List Installment :=
  db.installments.rows.filter (owes contractId)

def FinancingStatus.takesPayments : FinancingStatus → Bool
  | .active | .defaulted => true
  | _ => false

/-- What the payment of an installment writes -/
structure Pays (contractId : String) (i : Installment) (now : DateTime) (db db' : Database) :
    Prop where
  installments : db'.installments =
    (PaymentWorker.markInstallmentPaid i.installmentId now db).installments
  contracts : db'.financingContracts =
    if (PaymentWorker.nextPending contractId
        (PaymentWorker.markInstallmentPaid i.installmentId now db)).isNone then
      (PaymentWorker.completeContract contractId now db).financingContracts
    else db.financingContracts
  users : db'.users = db.users
  applications : db'.kycApplications = db.kycApplications
  products : db'.products = db.products
  sessions : db'.onboardingSessions = db.onboardingSessions

/-- Of the intents that are open afterwards, each was there or is of the installment. -/
def OpensOnly (installmentId : String) (db db' : Database) : Prop :=
  ∀ n ∈ db'.paymentIntents.rows, n.status.active = true →
    n ∈ db.paymentIntents.rows ∨ n.reservationKey = IntentProgram.installmentKey installmentId

section rounds
variable {contractId : String} {c : FinancingContract} {customer : User} {i : Installment}
  {db db' : Database} {e : PaymentRound}

theorem mem_outstandingOf : i ∈ outstandingOf contractId db ↔
    i ∈ InstallmentService.unpaidOf contractId db ∧ i.status ≠ .voided := by
  rw [outstandingOf, List.mem_filter, owes, decide_eq_true_iff, InstallmentService.mem_unpaidOf,
    Bool.not_eq_true', InstallmentStatus.settled_iff]
  tauto

theorem findForPayment_eq (hc : db.financingContracts.find? contractId = some c)
    (hpayer : PayableBy c customer db) (hi : i ∈ InstallmentService.unpaidOf contractId db) :
    ∃ product, InstallmentService.findForPayment i.installmentId db =
      some ⟨i, c, some customer, some product⟩ := by
  obtain ⟨hmem, hcontract, -⟩ := InstallmentService.mem_unpaidOf.mp hi
  obtain ⟨a, ha, huser, hproduct⟩ := hpayer.application
  obtain ⟨product, hproduct⟩ := Option.isSome_iff_exists.mp hproduct
  refine ⟨product, ?_⟩
  have ha : db.kycApplications.find? c.kycApplicationId = some a := ha
  rw [InstallmentService.findForPayment]
  simp [Table.find?_of_mem hmem, hcontract, hc, ha, huser, hpayer.user, hproduct]

theorem assertMayPay_eq_ok_iff (hc : db.financingContracts.find? contractId = some c)
    (hpayer : PayableBy c customer db) (hi : i ∈ InstallmentService.unpaidOf contractId db) :
    ∃ product, ∀ found,
      InstallmentService.assertMayPay i.installmentId customer.userId db = .ok found ↔
        c.status.takesPayments = true ∧ ⟨i, c, some customer, some product⟩ = found := by
  obtain ⟨product, hfound⟩ := findForPayment_eq hc hpayer hi
  have hunpaid := (InstallmentService.mem_unpaidOf.mp hi).2.2
  refine ⟨product, fun found => ?_⟩
  rw [InstallmentService.assertMayPay, hfound]
  simp only [hpayer.userId, ne_eq, not_true_eq_false, if_false, hunpaid]
  cases c.status <;> simp [FinancingStatus.takesPayments]

theorem assertPayer_eq (hpayer : PayableBy c customer db) (product : Product) :
    InstallmentService.assertPayer ⟨i, c, some customer, some product⟩ =
      .ok (customer, product) := by
  have hemail : customer.email ≠ "" := by
    intro hempty
    have hblank := hpayer.email
    rw [hempty] at hblank
    cases hblank
  simp [InstallmentService.assertPayer, Option.filter_some, hemail]

/-- A payment is accepted of an installment that is next and whose window is open, on a contract
that takes payments. -/
theorem PaymentRound.accepted_of_pay (hc : db.financingContracts.find? contractId = some c)
    (hpayer : PayableBy c customer db) (hi : i ∈ InstallmentService.unpaidOf contractId db)
    (h : e.pay i.installmentId customer.userId db = .ok db') :
    c.status.takesPayments = true ∧
      (InstallmentService.eligibility i e.opening.now db).canPay = true := by
  obtain ⟨product, hmay⟩ := assertMayPay_eq_ok_iff hc hpayer hi
  rw [pay] at h
  split at h
  · cases h
  · rename_i between link hopened
    obtain ⟨found, _, _, eligibility, hfound, hpayable, -⟩ :=
      IntentProgram.initializeInstallmentPayment_eq_ok hopened
    obtain ⟨hstatus, rfl⟩ := (hmay found).mp hfound
    exact ⟨hstatus, (InstallmentService.assertInstallmentIsPayable_eq_ok.mp hpayable).1⟩

theorem Pays.of_commits {loaded : LoadedInstallment} {installmentId : String} {now : DateTime}
    (hload : PaymentWorker.loadInstallment installmentId db = some loaded)
    (h : PaymentWorker.Commits loaded now db db') :
    Pays loaded.installment.financingContractId loaded.installment now db db' := by
  obtain ⟨payments, commissions, ledger, paymentIntents, hdb⟩ := h.frame
  have hid := contractId_of_loadInstallment hload
  refine ⟨by rw [hdb], ?_, by rw [hdb], by rw [hdb], by rw [hdb], by rw [hdb]⟩
  rw [hdb, ← hid]
  rfl

theorem Pays.of_intents {paymentIntents : Table PaymentIntent.intentId} {now : DateTime}
    (h : Pays contractId i now { db with paymentIntents } db') : Pays contractId i now db db' :=
  ⟨h.installments, h.contracts, h.users, h.applications, h.products, h.sessions⟩

theorem PaymentRound.Undisturbed.pays (he : e.Undisturbed i.installmentId db)
    (hc : db.financingContracts.find? contractId = some c) (hpayer : PayableBy c customer db)
    (hi : i ∈ InstallmentService.unpaidOf contractId db) (hstatus : c.status.takesPayments = true)
    (hpay : (InstallmentService.eligibility i e.opening.now db).canPay = true) :
    ∃ db', e.pay i.installmentId customer.userId db = .ok db' ∧
      Pays contractId i e.now db db' ∧ OpensOnly i.installmentId db db' := by
  obtain ⟨hmem, hcontract, hunpaid⟩ := InstallmentService.mem_unpaidOf.mp hi
  obtain ⟨product, hmay⟩ := assertMayPay_eq_ok_iff hc hpayer hi
  obtain ⟨response, v, hprovider, hcharged⟩ := he.charged customer.email (i.amount * 100)
  obtain ⟨link, intents, hopened, hlink, hintent, hrows⟩ :=
    IntentProgram.initializeInstallmentPayment_accepts ((hmay _).mpr ⟨hstatus, rfl⟩)
      (InstallmentService.assertInstallmentIsPayable_eq_ok.mpr ⟨hpay, rfl⟩)
      (assertPayer_eq hpayer product) hpayer.email he.uuid he.unopened hprovider hcharged.reference
  let opened : Database := { db with paymentIntents := intents }
  obtain ⟨stored, hstored⟩ := Option.isSome_iff_exists.mp hpayer.product
  have hload : PaymentWorker.loadInstallment i.installmentId opened = some
      { installment := i, contract := c, product := stored, user := some customer
        referrerRole :=
          (customer.referredByMarketerId.bind db.users.find?).map User.role } := by
    rw [PaymentWorker.loadInstallment]
    simp [opened, Table.find?_of_mem hmem, hcontract, hc, hstored, hpayer.userId, hpayer.user]
  rw [← hlink] at hintent
  obtain ⟨result, hprocess⟩ := PaymentWorker.process_isOk ⟨i.installmentId, link.reference⟩ hload
    hunpaid hintent (hlink ▸ hcharged.verified) hcharged.success (hlink ▸ hcharged.idempotencyKey)
    (hlink ▸ hcharged.gatewayRef) he.paymentId he.commissionId e.now
  refine ⟨result.2, ?_, ?_⟩
  · rw [pay, hopened]
    simp only [opened] at hprocess
    simp only [hprocess]
    rfl
  · obtain ⟨found, hfound, ⟨hpaid, -⟩ | ⟨-, hcommits⟩⟩ := PaymentWorker.process_eq_ok hprocess
    · obtain rfl := Option.some.inj (hload.symm.trans hfound)
      exact absurd hpaid hunpaid
    obtain rfl := Option.some.inj (hload.symm.trans hfound)
    have hpaid : Pays i.financingContractId i e.now opened result.2 :=
      Pays.of_commits hload hcommits
    rw [hcontract] at hpaid
    refine ⟨hpaid.of_intents, fun n hn hactive => ?_⟩
    · rcases PaymentWorker.process_intents hprocess with hsame | ⟨intent, -, hmarked⟩
      · rw [hsame] at hn
        exact hrows n hn
      · rw [hmarked] at hn
        rcases Table.mem_updateMany.mp hn with ⟨hn, -⟩ | ⟨s, -, -, rfl⟩
        · exact hrows n hn
        · cases hactive

namespace Pays
variable {now : DateTime} {j : Installment}

theorem mem_unpaidOf (h : Pays contractId i now db db') (k : String) :
    j ∈ InstallmentService.unpaidOf k db' ↔
      j ∈ InstallmentService.unpaidOf k db ∧ j.installmentId ≠ i.installmentId := by
  have hrows : j ∈ db'.installments.rows ↔
      (j ∈ db.installments.rows ∧ j.installmentId ≠ i.installmentId) ∨
        ∃ s ∈ db.installments.rows, s.installmentId = i.installmentId ∧
          j = { s with status := .paid, paidAt := some now } := by
    have hupdate : j ∈ (db.installments.update i.installmentId
      (fun s => { s with status := .paid, paidAt := some now }) fun _ => rfl).rows ↔ _ :=
        Table.mem_update_iff
    rw [h.installments]
    exact hupdate
  rw [InstallmentService.mem_unpaidOf, InstallmentService.mem_unpaidOf, hrows]
  constructor
  · rintro ⟨⟨hj, hne⟩ | ⟨s, -, -, rfl⟩, hcontract, hunpaid⟩
    · exact ⟨⟨hj, hcontract, hunpaid⟩, hne⟩
    · exact absurd rfl hunpaid
  · rintro ⟨⟨hj, hcontract, hunpaid⟩, hne⟩
    exact ⟨.inl ⟨hj, hne⟩, hcontract, hunpaid⟩

theorem mem_outstandingOf (h : Pays contractId i now db db') (k : String) :
    j ∈ outstandingOf k db' ↔ j ∈ outstandingOf k db ∧ j.installmentId ≠ i.installmentId := by
  rw [InstalFlow.mem_outstandingOf, InstalFlow.mem_outstandingOf, h.mem_unpaidOf]
  tauto

theorem isNone_nextPending (h : Pays contractId i now db db') :
    (PaymentWorker.nextPending contractId
      (PaymentWorker.markInstallmentPaid i.installmentId now db)).isNone = true ↔
        ∀ j ∈ InstallmentService.unpaidOf contractId db', j.status ≠ .pending := by
  rw [ContractStep.isNone_nextPending_iff, ← h.installments]
  constructor
  · intro hnone j hj
    obtain ⟨hmem, hcontract, -⟩ := InstallmentService.mem_unpaidOf.mp hj
    exact hnone j hmem hcontract
  · intro hnone j hj hcontract hpending
    refine hnone j (InstallmentService.mem_unpaidOf.mpr ⟨hj, hcontract, ?_⟩) hpending
    rw [hpending]
    exact InstallmentStatus.noConfusion

/-- The contract is COMPLETED when no PENDING installment is left, and else as it was. -/
theorem find?_contract (h : Pays contractId i now db db')
    (hc : db.financingContracts.find? contractId = some c) :
    ((∀ j ∈ InstallmentService.unpaidOf contractId db', j.status ≠ .pending) ∧
      db'.financingContracts.find? contractId =
        some { c with status := .completed, completedAt := some now }) ∨
    ((∃ j ∈ InstallmentService.unpaidOf contractId db', j.status = .pending) ∧
      db'.financingContracts.find? contractId = some c) := by
  by_cases hnone : ∀ j ∈ InstallmentService.unpaidOf contractId db', j.status ≠ .pending
  · refine .inl ⟨hnone, ?_⟩
    rw [h.contracts, if_pos (h.isNone_nextPending.mpr hnone)]
    refine (Table.find?_update db.financingContracts contractId contractId (fun c =>
      { c with status := .completed, completedAt := some now }) fun _ => rfl).trans ?_
    rw [if_pos rfl, hc]
    rfl
  · refine .inr ⟨by simpa using hnone, ?_⟩
    rw [h.contracts, if_neg fun hn => hnone (h.isNone_nextPending.mp hn), hc]

theorem payableBy (h : Pays contractId i now db db') (hpayer : PayableBy c customer db)
    {c' : FinancingContract} (hsame : c'.userId = c.userId ∧
      c'.kycApplicationId = c.kycApplicationId ∧ c'.productId = c.productId) :
    PayableBy c' customer db' := by
  obtain ⟨huser, hfound, hemail, happ, hproduct⟩ := hpayer
  obtain ⟨huser', happ', hproduct'⟩ := hsame
  exact ⟨huser'.trans huser, by rw [h.users, hfound], hemail,
    by rw [happ', h.applications, h.products]; exact happ, by rw [hproduct', h.products, hproduct]⟩

theorem contract (h : Pays contractId i now db db')
    (hc : db.financingContracts.find? contractId = some c) (hpayer : PayableBy c customer db) :
    ∃ c', db'.financingContracts.find? contractId = some c' ∧ PayableBy c' customer db' ∧
      ((∀ j ∈ InstallmentService.unpaidOf contractId db', j.status ≠ .pending) →
        c'.status = .completed) ∧
      ((∃ j ∈ InstallmentService.unpaidOf contractId db', j.status = .pending) →
        c'.status = c.status) := by
  rcases h.find?_contract hc with ⟨hnone, hfind⟩ | ⟨hsome, hfind⟩
  · refine ⟨_, hfind, h.payableBy hpayer ⟨rfl, rfl, rfl⟩, fun _ => rfl, fun hsome => ?_⟩
    obtain ⟨j, hj, hpending⟩ := hsome
    exact absurd hpending (hnone j hj)
  · refine ⟨c, hfind, h.payableBy hpayer ⟨rfl, rfl, rfl⟩, fun hnone => ?_, fun _ => rfl⟩
    obtain ⟨j, hj, hpending⟩ := hsome
    exact absurd hpending (hnone j hj)

theorem distinctSequences (h : Pays contractId i now db db') (hdistinct : DistinctSequences db) :
    DistinctSequences db' := by
  refine hdistinct.updateMany (p := fun j => j.installmentId = i.installmentId)
    (f := fun j => { j with status := .paid, paidAt := some now }) (fun _ => rfl) ?_ h.installments
  exact ⟨fun _ => rfl, fun _ => rfl⟩

end Pays

theorem OpensOnly.noOpenIntent {j : Installment} (h : OpensOnly i.installmentId db db')
    (hne : j.installmentId ≠ i.installmentId)
    (hopen : IntentProgram.NoOpenIntent (IntentProgram.installmentKey j.installmentId) db) :
    IntentProgram.NoOpenIntent (IntentProgram.installmentKey j.installmentId) db' := by
  intro n hn hkey
  by_contra hactive
  rcases h n hn (by simpa using hactive) with hbefore | hown
  · exact hactive (hopen n hbefore hkey)
  · exact hne ((String.append_right_inj _).mp (hkey.symm.trans hown))

/-- Whatever is stored, there is an undisturbed payment. -/
theorem PaymentRound.exists_undisturbed {installmentId : String} (t : DateTime)
    (hopen : IntentProgram.NoOpenIntent (IntentProgram.installmentKey installmentId) db) :
    ∃ e : PaymentRound, e.opening.now = t ∧ e.Undisturbed installmentId db := by
  obtain ⟨uuid, -, huuid⟩ := exists_injective_fresh
    (db.paymentIntents.rows.map PaymentIntent.intentId ++
      db.paymentIntents.rows.map PaymentIntent.idempotencyKey)
  obtain ⟨reference, -, href⟩ := exists_injective_fresh
    (db.paymentIntents.rows.filterMap PaymentIntent.reference ++
      (db.payments.rows.filterMap Payment.idempotencyKey ++
        db.payments.rows.filterMap Payment.providerReference))
  obtain ⟨paymentId, -, hpayment⟩ := db.payments.exists_fresh
  obtain ⟨commissionId, -, hcommission⟩ := db.commissions.exists_fresh
  have huuid := huuid 0
  have href := href 0
  rw [List.mem_append, not_or] at huuid
  rw [List.mem_append, List.mem_append, not_or, not_or] at href
  let response : ProviderResponse := { reference := reference 0, authorizationUrl := "" }
  refine ⟨⟨{ now := t, uuid := uuid 0, initializeTransaction := fun _ _ => .ok response },
    fun _ => .ok { status := "success" }, paymentId 0, commissionId 0, t⟩, rfl, ?_⟩
  refine ⟨⟨fun n hn he => huuid.1 (List.mem_map.mpr ⟨n, hn, he⟩),
    fun n hn he => huuid.2 (List.mem_map.mpr ⟨n, hn, he⟩)⟩, hopen, fun _ _ => ?_, hpayment 0,
    hcommission 0⟩
  refine ⟨response, { status := "success" }, rfl, rfl, rfl, fun n hn he => ?_, fun p hp he => ?_,
    fun p hp he => ?_⟩
  · exact href.1 (List.mem_filterMap.mpr ⟨n, hn, he⟩)
  · exact href.2.1 (List.mem_filterMap.mpr ⟨p, hp, he⟩)
  · exact href.2.2 (List.mem_filterMap.mpr ⟨p, hp, he⟩)

end rounds
end InstalFlow
