import InstalFlow.PaymentWorker

/-!
# What a payment job commits

The transaction of a payment job, read backwards: each of its statements writes
a table of its own, so the committed database is the one before with these
tables replaced.
-/

namespace InstalFlow
open Relational

theorem isOk_iff {ε α : Type} {x : Except ε α} : x.isOk = true ↔ ∃ a, x = .ok a := by
  cases x <;> simp [Except.isOk, Except.toBool]

theorem bind_eq_ok {ε α β : Type} {x : Except ε α} {f : α → Except ε β} {b : β} :
    (x >>= f) = .ok b ↔ ∃ a, x = .ok a ∧ f a = .ok b := by
  cases x with
  | error e =>
    constructor
    · intro h
      cases h
    · intro hx
      obtain ⟨a, ha, -⟩ := hx
      cases ha
  | ok a =>
    constructor
    · intro h
      exact ⟨a, rfl, h⟩
    · intro hx
      obtain ⟨a', ha, h⟩ := hx
      cases ha
      exact h

theorem post_eq_ok {data : LedgerTransaction} {db db' : Database} (h : post data db = .ok db') :
    ∃ ledger, LedgerService.recordTransaction data db.ledger = .ok ledger ∧
      db' = { db with ledger } := by
  rw [post] at h
  split at h
  · cases h
  · rename_i ledger hledger
    cases h
    exact ⟨ledger, hledger, rfl⟩

namespace PaymentIntentService

theorem ignoreConflict_eq_ok {db db' : Database} {r : Except AppError Database}
    (h : ignoreConflict db r = .ok db') : db' = committed db id r := by
  unfold ignoreConflict at h
  split at h
  · cases h
    rfl
  · rw [h]
    rfl

theorem ignoreConflict_markSuccess {intentId : String} {now : DateTime} {db db' : Database}
    (h : ignoreConflict db (markSuccess intentId now db) = .ok db') :
    db' = { db with
      paymentIntents := db.paymentIntents.updateMany
        (fun i => i.intentId = intentId ∧ !i.status.terminal)
        (fun i => { i with status := .success, updatedAt := now }) } := by
  rw [ignoreConflict_eq_ok h, markSuccess]
  exact committed_transitionStatus .success now id fun _ => rfl

end PaymentIntentService

namespace PaymentWorker
variable {i : LoadedInstallment} {now : DateTime} {db db' : Database}

theorem loadInstallment_eq_some {installmentId : String} {i : LoadedInstallment}
    (h : loadInstallment installmentId db = some i) :
    db.installments.find? installmentId = some i.installment ∧
      db.financingContracts.find? i.installment.financingContractId = some i.contract := by
  simp only [loadInstallment, Option.bind_eq_bind, Option.bind_eq_some_iff,
    Option.pure_def, Option.some.injEq] at h
  obtain ⟨installment, hi, contract, hc, product, -, rfl⟩ := h
  exact ⟨hi, hc⟩

theorem recordPayment_frame {installment : Installment} {reference gatewayRef paymentId : String}
    {payment : Payment}
    (h : recordPayment installment reference gatewayRef paymentId db = .ok (payment, db')) :
    ∃ payments, db' = { db with payments } := by
  rw [recordPayment] at h
  split at h
  · split at h
    · cases h
    · cases h
      exact ⟨_, rfl⟩
  · simp only at h
    split at h
    · cases h
    · split at h
      · cases h
      · split at h
        · cases h
        · cases h
          exact ⟨_, rfl⟩

structure Accrued (i : LoadedInstallment) (db : Database) (c : Commission)
    (commissions : Table Commission.commissionId) : Prop where
  created : db.commissions.create c = some commissions
  accrual : ∃ userId, accrual i = some (userId, c.amount)
  status : c.status = .active
  reservedAmount : c.reservedAmount = 0

theorem accrueCommission_cases {paymentId commissionId : String} {record : Option Commission}
    (h : accrueCommission i paymentId commissionId now db = .ok (record, db')) :
    (accrual i = none ∧ db' = db) ∨
      ∃ c commissions, Accrued i db c commissions ∧ db' = { db with commissions } := by
  rw [accrueCommission] at h
  split at h
  · rename_i hnone
    cases h
    exact .inl ⟨hnone, rfl⟩
  · rename_i userId amount hsome
    simp only at h
    split at h
    · cases h
    · rename_i commissions hcreate
      cases h
      exact .inr ⟨_, commissions, ⟨createRow_eq_ok.mp hcreate, ⟨userId, hsome⟩, rfl, rfl⟩, rfl⟩

theorem accrueCommission_frame {paymentId commissionId : String} {record : Option Commission}
    (h : accrueCommission i paymentId commissionId now db = .ok (record, db')) :
    ∃ commissions, db' = { db with commissions } := by
  rcases accrueCommission_cases h with ⟨-, rfl⟩ | ⟨-, cs, -, rfl⟩
  · exact ⟨_, rfl⟩
  · exact ⟨cs, rfl⟩

/-- The contracts a job leaves: completed when no PENDING installment is left. -/
def contractsAfter (i : LoadedInstallment) (now : DateTime) (db : Database) :
    Table FinancingContract.contractId :=
  if (nextPending i.contract.contractId
      (markInstallmentPaid i.installment.installmentId now db)).isNone then
    (completeContract i.contract.contractId now db).financingContracts
  else db.financingContracts

theorem completion_eq (contractId : String) (now : DateTime) (db : Database) :
    (if (nextPending contractId db).isNone then completeContract contractId now db else db) =
      { db with
        financingContracts :=
          if (nextPending contractId db).isNone then
            (completeContract contractId now db).financingContracts
          else db.financingContracts } := by
  split <;> rfl

def markedSuccess (intent : PaymentIntent) (now : DateTime) (db : Database) :
    Table PaymentIntent.intentId :=
  db.paymentIntents.updateMany (fun i => i.intentId = intent.intentId ∧ !i.status.terminal)
    (fun i => { i with status := .success, updatedAt := now })

structure Commits (i : LoadedInstallment) (now : DateTime) (db db' : Database) : Prop where
  frame : ∃ payments commissions ledger paymentIntents, db' =
    { db with
      payments, commissions, ledger, paymentIntents
      installments := (markInstallmentPaid i.installment.installmentId now db).installments
      financingContracts := contractsAfter i now db }
  commissions : (accrual i = none ∧ db'.commissions = db.commissions) ∨
    ∃ c, Accrued i db c db'.commissions

theorem transaction_eq_ok {intent : PaymentIntent} {v : Verification}
    {reference paymentId commissionId : String} {result : PaymentResult}
    (h : transaction i intent v reference paymentId commissionId now db = .ok (result, db')) :
    Commits i now db db' ∧ db'.paymentIntents = markedSuccess intent now db := by
  obtain ⟨⟨payment, db₁⟩, hpayment, h⟩ := bind_eq_ok.mp h
  obtain ⟨⟨record, db₂⟩, haccrue, h⟩ := bind_eq_ok.mp h
  obtain ⟨db₃, hpost, h⟩ := bind_eq_ok.mp h
  obtain ⟨db₄, hintent, h⟩ := bind_eq_ok.mp h
  obtain ⟨payments, rfl⟩ := recordPayment_frame hpayment
  obtain ⟨ledger, -, rfl⟩ := post_eq_ok hpost
  have hdb₄ := PaymentIntentService.ignoreConflict_markSuccess hintent
  cases h
  obtain ⟨commissions, hdb₂⟩ := accrueCommission_frame haccrue
  have hframe : db' = { db with
      payments, commissions, ledger
      paymentIntents := markedSuccess intent now db
      installments := (markInstallmentPaid i.installment.installmentId now db).installments
      financingContracts := contractsAfter i now db } := by
    rw [completion_eq] at hdb₄
    rw [hdb₄, hdb₂]
    rfl
  refine ⟨⟨⟨payments, commissions, ledger, _, hframe⟩, ?_⟩, by rw [hframe]⟩
  have hsame : db'.commissions = db₂.commissions := by rw [hframe, hdb₂]
  rcases accrueCommission_cases haccrue with ⟨hnone, rfl⟩ | ⟨c, cs, hc, hdb⟩
  · exact .inl ⟨hnone, hsame⟩
  · refine .inr ⟨c, ?_, hc.accrual, hc.status, hc.reservedAmount⟩
    rw [hsame, hdb]
    exact hc.created

theorem process_eq_ok {verifyPaystack : String → Except String Verification}
    {job : PaymentJobData} {paymentId commissionId : String} {result : PaymentJobResult}
    (h : process verifyPaystack job paymentId commissionId now db = .ok (result, db')) :
    ∃ i, loadInstallment job.installmentId db = some i ∧
      ((i.installment.status = .paid ∧ ∃ paymentIntents, db' = { db with paymentIntents }) ∨
        (i.installment.status ≠ .paid ∧ Commits i now db db')) := by
  rw [process] at h
  split at h
  · cases h
  · rename_i i hi
    refine ⟨i, hi, ?_⟩
    split at h
    · rename_i hpaid
      refine .inl ⟨hpaid, ?_⟩
      split at h
      · cases h
        exact ⟨_, rfl⟩
      · split at h
        · cases h
        · rename_i hmark
          cases h
          exact ⟨_, PaymentIntentService.ignoreConflict_markSuccess hmark⟩
    · rename_i hpaid
      refine .inr ⟨hpaid, ?_⟩
      split at h
      · cases h
      · split at h
        · cases h
        · split at h
          · cases h
          · split at h
            · cases h
            · rename_i htransaction
              cases h
              exact (transaction_eq_ok htransaction).1

theorem process_intents {verifyPaystack : String → Except String Verification}
    {job : PaymentJobData} {paymentId commissionId : String} {result : PaymentJobResult}
    (h : process verifyPaystack job paymentId commissionId now db = .ok (result, db')) :
    db'.paymentIntents = db.paymentIntents ∨
      ∃ intent, PaymentIntentService.findByReference job.reference db = some intent ∧
        db'.paymentIntents = markedSuccess intent now db := by
  rw [process] at h
  split at h
  · cases h
  · split at h
    · split at h
      · cases h
        exact .inl rfl
      · rename_i intent hfind
        split at h
        · cases h
        · rename_i hmark
          cases h
          refine .inr ⟨intent, hfind, ?_⟩
          rw [PaymentIntentService.ignoreConflict_markSuccess hmark]
          rfl
    · split at h
      · cases h
      · rename_i intent hfind
        split at h
        · cases h
        · split at h
          · cases h
          · split at h
            · cases h
            · rename_i htransaction
              cases h
              exact .inr ⟨intent, hfind, (transaction_eq_ok htransaction).2⟩

end PaymentWorker
end InstalFlow
