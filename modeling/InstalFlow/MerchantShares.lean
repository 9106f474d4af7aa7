import InstalFlow.InstallmentCollection
import InstalFlow.LedgerCredits
import InstalFlow.SettlementPrograms
import Mathlib.Tactic.Linarith

/-!
# The merchant's share of a paid installment

A job posts to the company of the customer what the commission leaves of the amount,
at the rate that it has loaded. As long as no job commits for an installment that is
already paid, this stays what the payment and its commissions say.
-/

namespace InstalFlow
open Relational Transition MerchantSettlementService

def successes (db : Database) (installmentId : String) : List Payment :=
  db.payments.rows.filter fun p => p.installmentId = installmentId ∧ p.status = .success

/-- What the jobs of an installment have credited to MERCHANT_PAYABLE of a company. -/
def merchantCredits (db : Database) (companyId : Option String) (installmentId : String) : ℚ :=
  ((successes db installmentId).map fun p =>
    (p.idempotencyKey.map fun r => db.ledger.credited r "MERCHANT_PAYABLE" companyId).getD 0).sum

/-- The one payment of an installment has credited its net amount to its company. -/
def MerchantPaid (db : Database) (i : Installment) : Prop :=
  ∃ p r, successes db i.installmentId = [p] ∧ p.idempotencyKey = some r ∧
    ∀ companyId, db.ledger.credited r "MERCHANT_PAYABLE" companyId =
      if customerCompany db i = companyId then i.amount - commissionsOn db (some p) else 0

/-- The books behind the payments, with what is posted for the merchants. -/
structure PaymentBooks (references : String → Prop) (db : Database) : Prop where
  booked : Booked references db
  referenced : db.ledger.Referenced
  uncredited : ∀ r, references r →
    (∀ p ∈ db.payments.rows, p.status = .success → p.idempotencyKey ≠ some r) →
    ∀ companyId, db.ledger.credited r "MERCHANT_PAYABLE" companyId = 0
  rates : ∀ p ∈ db.products.rows, 0 ≤ p.commissionRate ∧ p.commissionRate ≤ 100
  amounts : ∀ i ∈ db.installments.rows, 0 ≤ i.amount
  paid : ∀ i ∈ db.installments.rows, i.status = .paid → MerchantPaid db i
  unpaid : ∀ i ∈ db.installments.rows, i.status ≠ .paid → successes db i.installmentId = []

/-- What paid installments say of themselves is not changed any more. -/
structure Database.KeepsPaid (db db' : Database) : Prop where
  installments : ∀ i ∈ db.installments.rows, ∃ i' ∈ db'.installments.rows,
    i'.installmentId = i.installmentId ∧ i'.financingContractId = i.financingContractId ∧
    i'.amount = i.amount ∧ (i.status = .paid → i'.status = .paid)
  company : ∀ i, customerCompany db' i = customerCompany db i
  deducted : ∀ i ∈ db.installments.rows, i.status = .paid →
    successes db' i.installmentId = successes db i.installmentId ∧
    ∀ p ∈ successes db i.installmentId, commissionsOn db' (some p) = commissionsOn db (some p)

/-- What a job has loaded is still what is stored. -/
structure LoadedInstallment.Stands (db : Database) (i : LoadedInstallment) : Prop where
  stored : ∃ j ∈ db.installments.rows, j.installmentId = i.installment.installmentId ∧
    j.financingContractId = i.installment.financingContractId ∧ j.amount = i.installment.amount
  company : i.user.bind User.companyId = customerCompany db i.installment
  amount : 0 ≤ i.installment.amount
  rate : 0 ≤ i.product.commissionRate ∧ i.product.commissionRate ≤ 100

/-- The commit of a job finds its installment unpaid, unless a unique key refuses it. -/
def PaysUnpaid (db : Database) : IntentWrite → Prop
  | .collect a => (a.collect db).isOk = true →
      ∀ i ∈ db.installments.find? a.loaded.installment.installmentId, i.status ≠ .paid
  | _ => True

instance (db : Database) : ∀ w : IntentWrite, Decidable (PaysUnpaid db w)
  | .collect a => inferInstanceAs (Decidable ((a.collect db).isOk = true →
      ∀ i ∈ db.installments.find? a.loaded.installment.installmentId, i.status ≠ .paid))
  | .create _ | .transition _ _ | .recordRecoveryFailure _ _ | .expireStale _ | .claim _
  | .elsewhere _ _ => isTrue trivial

theorem customerCompany_congr {db : Database} {i j : Installment}
    (h : i.financingContractId = j.financingContractId) :
    customerCompany db i = customerCompany db j := by
  rw [customerCompany, customerCompany, h]

theorem successPayments_eq (db : Database) (installmentId : String) :
    successPayments installmentId db = (successes db installmentId).length :=
  List.countP_eq_length_filter

theorem mem_successes {db : Database} {installmentId : String} {p : Payment} :
    p ∈ successes db installmentId ↔
      p ∈ db.payments.rows ∧ p.installmentId = installmentId ∧ p.status = .success := by
  simp [successes]

theorem successes_eq_singleton {db : Database} {installmentId : String} {p : Payment}
    (hcount : successPayments installmentId db = 1) (hp : p ∈ successes db installmentId) :
    successes db installmentId = [p] := by
  rw [successPayments_eq] at hcount
  obtain ⟨q, hq⟩ := List.length_eq_one_iff.mp hcount
  rw [hq, List.mem_singleton] at hp
  rw [hq, hp]

namespace MerchantPaid
variable {db : Database} {i : Installment}

/-- The credits of a paid installment are the net amount that a settlement derives. -/
theorem merchantCredits_eq (h : MerchantPaid db i) (companyId : Option String) :
    merchantCredits db companyId i.installmentId =
      if customerCompany db i = companyId then i.amount - commissionDeducted db i else 0 := by
  obtain ⟨p, r, hsuccesses, hkey, hcredited⟩ := h
  have hlatest : latestPayment db i = some p := by
    rw [latestPayment, ← successes, hsuccesses]
    rfl
  rw [merchantCredits, hsuccesses, commissionDeducted_eq, hlatest, ← hcredited companyId]
  simp [hkey]

end MerchantPaid

namespace Database.KeepsPaid
variable {db db' db'' : Database}

theorem rfl : db.KeepsPaid db where
  installments i hi := ⟨i, hi, Eq.refl _, Eq.refl _, Eq.refl _, id⟩
  company _ := Eq.refl _
  deducted _ _ _ := ⟨Eq.refl _, fun _ _ => Eq.refl _⟩

theorem trans (h : db.KeepsPaid db') (h' : db'.KeepsPaid db'') : db.KeepsPaid db'' where
  installments i hi := by
    obtain ⟨j, hj, hid, hcontract, hamount, hpaid⟩ := h.installments i hi
    obtain ⟨k, hk, hid', hcontract', hamount', hpaid'⟩ := h'.installments j hj
    exact ⟨k, hk, hid'.trans hid, hcontract'.trans hcontract, hamount'.trans hamount,
      fun hi => hpaid' (hpaid hi)⟩
  company i := (h'.company i).trans (h.company i)
  deducted i hi hstatus := by
    obtain ⟨j, hj, hid, -, -, hpaid⟩ := h.installments i hi
    obtain ⟨hsuccesses, hcommissions⟩ := h.deducted i hi hstatus
    have hlater := h'.deducted j hj (hpaid hstatus)
    rw [hid, hsuccesses] at hlater
    exact ⟨hlater.1, fun p hp => (hlater.2 p hp).trans (hcommissions p hp)⟩

theorem stands (h : db.KeepsPaid db') {i : LoadedInstallment} (hi : i.Stands db) :
    i.Stands db' where
  stored := by
    obtain ⟨j, hj, hid, hcontract, hamount⟩ := hi.stored
    obtain ⟨k, hk, hid', hcontract', hamount', -⟩ := h.installments j hj
    exact ⟨k, hk, hid'.trans hid, hcontract'.trans hcontract, hamount'.trans hamount⟩
  company := hi.company.trans (h.company i.installment).symm
  amount := hi.amount
  rate := hi.rate

theorem deducts (h : db.KeepsPaid db') {i : Installment} (hi : i ∈ db.installments.rows)
    (hstatus : i.status = .paid) : commissionDeducted db' i = commissionDeducted db i := by
  obtain ⟨hsuccesses, hcommissions⟩ := h.deducted i hi hstatus
  rw [commissionDeducted_eq, commissionDeducted_eq, latestPayment, latestPayment, ← successes,
    ← successes, hsuccesses]
  cases hlast : (successes db i.installmentId).getLast? with
  | none => exact Eq.refl _
  | some p => exact hcommissions p (List.mem_of_getLast? hlast)

end Database.KeepsPaid

section loading
variable {references : String → Prop} {db : Database} {i : LoadedInstallment}

theorem commissionsOn_of_accruals {payment : Payment} (h : accruals db payment.paymentId = 0) :
    commissionsOn db (some payment) = 0 := by
  refine Table.sumWhere_eq_zero fun c hc => ?_
  have hnone := List.countP_eq_zero.mp h c hc
  simpa using hnone

theorem PaymentBooks.stands (h : PaymentBooks references db) {installmentId : String}
    (hload : PaymentWorker.loadInstallment installmentId db = some i) : i.Stands db := by
  simp only [PaymentWorker.loadInstallment, Option.bind_eq_bind, Option.bind_eq_some_iff,
    Option.pure_def, Option.some.injEq] at hload
  obtain ⟨installment, hinstallment, contract, hcontract, product, hproduct, rfl⟩ := hload
  have hmem := Table.mem_of_find? hinstallment
  refine ⟨⟨installment, hmem, rfl, rfl, rfl⟩, ?_, h.amounts installment hmem,
    h.rates product (Table.mem_of_find? hproduct)⟩
  rw [customerCompany, hcontract]
  rfl

theorem LoadedInstallment.Stands.commissionAmount (h : i.Stands db) :
    PaymentWorker.commissionAmount i ≤ i.installment.amount := by
  rw [PaymentWorker.commissionAmount, PaymentWorker.accrual]
  cases PaymentWorker.LoadedInstallment.marketerId i with
  | none => exact h.amount
  | some marketerId =>
    dsimp only
    split
    · have hrate : i.product.commissionRate / 100 ≤ 1 := by linarith [h.rate.2]
      exact mul_le_of_le_one_right h.amount hrate
    · exact h.amount

/-- The job credits the merchant with what the commission leaves. -/
theorem creditOf_paymentPosting (h : i.Stands db) (reference : String) :
    LedgerService.creditOf "MERCHANT_PAYABLE" (PaymentWorker.paymentPosting i reference).entries =
      i.installment.amount - PaymentWorker.commissionAmount i := by
  have hle := h.commissionAmount
  simp only [PaymentWorker.paymentPosting, PaymentWorker.paymentEntries, LedgerService.creditOf]
  split <;> split <;> simp
  all_goals linarith

end loading

/-- What the commit of a job writes. -/
structure PaymentAttempt.Collects (a : PaymentAttempt) (payment : Payment) (db db' : Database) :
    Prop where
  records : Records db db'.payments payment a.loaded.installment.installmentId a.reference
  accrues : PaymentWorker.AccruesFor a.loaded payment.paymentId db.commissions db'.commissions
  posts : LedgerService.recordTransaction (PaymentWorker.paymentPosting a.loaded a.reference)
    db.ledger = .ok db'.ledger
  installments : db'.installments =
    (PaymentWorker.markInstallmentPaid a.loaded.installment.installmentId a.now db).installments
  contracts : db'.financingContracts = PaymentWorker.contractsAfter a.loaded a.now db
  users : db'.users = db.users
  products : db'.products = db.products

theorem Records.of_success {db : Database} {payments : Table Payment.paymentId}
    {payment p : Payment} {installmentId reference : String}
    (h : Records db payments payment installmentId reference) (hp : p ∈ db.payments.rows) (hstatus : p.status = .success) :
    p.paymentId ≠ payment.paymentId ∧ p ∈ payments.rows ∧ p.idempotencyKey ≠ some reference := by
  have hne : p.paymentId ≠ payment.paymentId := by
    intro hid
    have hcredit := (h.replaced p hp hid).1
    rw [Payment.credit, if_pos hstatus] at hcredit
    cases hcredit
  exact ⟨hne, h.kept p hp hne⟩

theorem PaymentAttempt.collects {references : String → Prop} {a : PaymentAttempt}
    {db db' : Database} (h : Booked references db) (hcollect : a.collect db = .ok db') :
    ∃ payment, a.Collects payment db db' := by
  obtain ⟨payment, payments, commissions, ledger, hrecord, haccrues, hposts, rfl⟩ :=
    PaymentAttempt.collect_eq_ok hcollect
  exact ⟨payment, recordPayment_records h hrecord, haccrues, hposts, rfl, rfl, rfl, rfl⟩

theorem contractsAfter_userId (i : LoadedInstallment) (now : DateTime) (db : Database)
    (contractId : String) :
    ((PaymentWorker.contractsAfter i now db).find? contractId).bind FinancingContract.userId =
      (db.financingContracts.find? contractId).bind FinancingContract.userId := by
  rw [PaymentWorker.contractsAfter]
  split
  · simp only [PaymentWorker.completeContract, Table.find?_update]
    split
    · cases db.financingContracts.find? contractId <;> rfl
    · rfl
  · rfl

namespace PaymentAttempt.Collects
variable {references : String → Prop} {a : PaymentAttempt} {payment : Payment} {db db' : Database}

theorem deducts (hc : a.Collects payment db db') (p : Payment) :
    commissionsOn db' (some p) = commissionsOn db (some p) +
      if p.paymentId = payment.paymentId then PaymentWorker.commissionAmount a.loaded else 0 := by
  rcases hc.accrues with ⟨hnone, hsame⟩ | ⟨c, hpayment, haccrual, hcreate⟩
  · simp [commissionsOn, hsame, PaymentWorker.commissionAmount, hnone]
  · have hsum := Table.sumWhere_create hcreate (fun c => c.paymentId = some p.paymentId)
      Commission.amount
    refine hsum.trans ?_
    simp [commissionsOn, Table.term, hpayment,
      PaymentWorker.commissionAmount, haccrual, eq_comm]

theorem company (hc : a.Collects payment db db') (i : Installment) :
    customerCompany db' i = customerCompany db i := by
  rw [customerCompany, hc.contracts, contractsAfter_userId, hc.users,
    customerCompany]

theorem count (hc : a.Collects payment db db') (installmentId : String) :
    successPayments installmentId db' = successPayments installmentId db +
      if a.loaded.installment.installmentId = installmentId then 1 else 0 :=
  hc.records.count installmentId

/-- An installment whose one payment has succeeded keeps it as the only one. -/
theorem successes_of_ne (hc : a.Collects payment db db') {installmentId : String} {p : Payment}
    (hne : a.loaded.installment.installmentId ≠ installmentId)
    (hp : successes db installmentId = [p]) : successes db' installmentId = [p] := by
  have hmem := mem_successes.mp (hp ▸ List.mem_singleton_self p)
  refine successes_eq_singleton ?_ (mem_successes.mpr ⟨?_, hmem.2⟩)
  · rw [hc.count, if_neg hne, successPayments_eq, hp]
    rfl
  · exact (hc.records.of_success hmem.1 hmem.2.2).2.1

theorem successes_of_eq (hc : a.Collects payment db db')
    (hnone : successes db a.loaded.installment.installmentId = []) :
    successes db' a.loaded.installment.installmentId = [payment] := by
  refine successes_eq_singleton ?_ (mem_successes.mpr
    ⟨hc.records.stored, hc.records.installment, hc.records.status⟩)
  rw [hc.count, if_pos rfl, successPayments_eq, hnone]
  rfl

/-- The commit adds to the credits under its own reference, and only to its company's. -/
theorem credited (hc : a.Collects payment db db') (hs : a.loaded.Stands db)
    (h : db.ledger.Referenced) : db'.ledger.Referenced ∧ ∀ r companyId,
      db'.ledger.credited r "MERCHANT_PAYABLE" companyId =
        db.ledger.credited r "MERCHANT_PAYABLE" companyId +
          if a.reference = r ∧ customerCompany db a.loaded.installment = companyId then
            a.loaded.installment.amount - PaymentWorker.commissionAmount a.loaded
          else 0 := by
  obtain ⟨hreferenced, hcredited⟩ := LedgerService.credited_recordTransaction hc.posts h
  refine ⟨hreferenced, fun r companyId => ?_⟩
  rw [hcredited, creditOf_paymentPosting hs]
  simp only [PaymentWorker.paymentPosting, hs.company]

/-- What the commit leaves alone of the other installments. -/
theorem merchantPaid_of_ne (hc : a.Collects payment db db') (hs : a.loaded.Stands db)
    (h : db.ledger.Referenced) {i : Installment}
    (hne : a.loaded.installment.installmentId ≠ i.installmentId) (hi : MerchantPaid db i) :
    MerchantPaid db' i := by
  obtain ⟨p, r, hsuccesses, hkey, hcredited⟩ := hi
  have hmem := mem_successes.mp (hsuccesses ▸ List.mem_singleton_self p)
  obtain ⟨hpayment, -, hreference⟩ := hc.records.of_success hmem.1 hmem.2.2
  refine ⟨p, r, hc.successes_of_ne hne hsuccesses, hkey, fun companyId => ?_⟩
  have hother : a.reference ≠ r := by
    intro he
    exact hreference (he ▸ hkey)
  rw [(hc.credited hs h).2, if_neg fun he => hother he.1, hcredited, hc.company,
    hc.deducts, if_neg hpayment, add_zero, add_zero]

/-- The installment that the job has paid. -/
theorem merchantPaid_of_eq (hc : a.Collects payment db db') (hs : a.loaded.Stands db)
    (h : PaymentBooks references db) (ha : references a.reference) {i : Installment}
    (hid : i.installmentId = a.loaded.installment.installmentId)
    (hcontract : i.financingContractId = a.loaded.installment.financingContractId)
    (hamount : i.amount = a.loaded.installment.amount)
    (hnone : successes db a.loaded.installment.installmentId = []) : MerchantPaid db' i := by
  refine ⟨payment, a.reference, ?_, hc.records.key, fun companyId => ?_⟩
  · rw [hid]
    exact hc.successes_of_eq hnone
  · have hunused : ∀ p ∈ db.payments.rows, p.status = .success →
        p.idempotencyKey ≠ some a.reference := fun p hp hstatus =>
      (hc.records.of_success hp hstatus).2.2
    have hfresh := commissionsOn_of_accruals (hc.records.unbooked h.booked ha).1
    rw [(hc.credited hs h.referenced).2, h.uncredited _ ha hunused, hc.deducts, hfresh,
      if_pos rfl, hc.company, customerCompany_congr hcontract, hamount]
    simp

theorem mem_installments (hc : a.Collects payment db db') {i : Installment} :
    i ∈ db'.installments.rows ↔
      (i ∈ db.installments.rows ∧ i.installmentId ≠ a.loaded.installment.installmentId) ∨
      ∃ j ∈ db.installments.rows, j.installmentId = a.loaded.installment.installmentId ∧
        i = { j with status := .paid, paidAt := some a.now } := by
  simp only [hc.installments, PaymentWorker.markInstallmentPaid, Table.mem_update_iff]

end PaymentAttempt.Collects

section collecting
variable {references : String → Prop} {a : PaymentAttempt} {payment : Payment} {db db' : Database}

/-- The row of the installment, which nothing has paid yet. -/
theorem PaymentBooks.unpaid_row (h : PaymentBooks references db) (hs : a.loaded.Stands db)
    (hunpaid : ∀ i ∈ db.installments.find? a.loaded.installment.installmentId, i.status ≠ .paid) :
    successes db a.loaded.installment.installmentId = [] ∧ ∀ i ∈ db.installments.rows,
      i.installmentId = a.loaded.installment.installmentId → i.status ≠ .paid ∧
        i.financingContractId = a.loaded.installment.financingContractId ∧
        i.amount = a.loaded.installment.amount := by
  obtain ⟨j, hj, hid, hcontract, hamount⟩ := hs.stored
  have hstatus : j.status ≠ .paid := hunpaid j (hid ▸ Table.find?_of_mem hj)
  refine ⟨hid ▸ h.unpaid j hj hstatus, fun i hi hsame => ?_⟩
  have heq : i = j := Table.key_injective hi hj (hsame.trans hid.symm)
  exact heq ▸ ⟨hstatus, hcontract, hamount⟩

theorem PaymentAttempt.Collects.keepsPaid (hc : a.Collects payment db db')
    (h : PaymentBooks references db) (hs : a.loaded.Stands db)
    (hunpaid : ∀ i ∈ db.installments.find? a.loaded.installment.installmentId, i.status ≠ .paid) :
    db.KeepsPaid db' := by
  obtain ⟨-, hrow⟩ := h.unpaid_row hs hunpaid
  refine ⟨fun i hi => ?_, hc.company, fun i hi hstatus => ?_⟩
  · by_cases hid : i.installmentId = a.loaded.installment.installmentId
    · exact ⟨_, hc.mem_installments.mpr (.inr ⟨i, hi, hid, rfl⟩), rfl, rfl, rfl, fun _ => rfl⟩
    · exact ⟨i, hc.mem_installments.mpr (.inl ⟨hi, hid⟩), rfl, rfl, rfl, id⟩
  · have hne : a.loaded.installment.installmentId ≠ i.installmentId := fun hid =>
      (hrow i hi hid.symm).1 hstatus
    obtain ⟨p, _, hsuccesses, -, -⟩ := h.paid i hi hstatus
    refine ⟨(hc.successes_of_ne hne hsuccesses).trans hsuccesses.symm, fun q hq => ?_⟩
    obtain ⟨hq, -, hsuccess⟩ := mem_successes.mp hq
    rw [hc.deducts, if_neg (hc.records.of_success hq hsuccess).1, add_zero]

theorem PaymentBooks.collect (h : PaymentBooks references db) (ha : references a.reference)
    (hs : a.loaded.Stands db)
    (hunpaid : ∀ i ∈ db.installments.find? a.loaded.installment.installmentId, i.status ≠ .paid)
    (hc : a.Collects payment db db') (hcollect : a.collect db = .ok db') :
    PaymentBooks references db' := by
  obtain ⟨hnone, hrow⟩ := h.unpaid_row hs hunpaid
  obtain ⟨hreferenced, hcredited⟩ := hc.credited hs h.referenced
  refine ⟨booked_collect h.booked ha hcollect, hreferenced, ?_, ?_, ?_, ?_, ?_⟩
  · intro r hr hfree companyId
    have hother : a.reference ≠ r := by
      intro he
      exact hfree payment hc.records.stored hc.records.status (he ▸ hc.records.key)
    rw [hcredited, if_neg fun he => hother he.1, add_zero]
    exact h.uncredited r hr (fun p hp hstatus =>
      hfree p (hc.records.of_success hp hstatus).2.1 hstatus) companyId
  · rw [hc.products]
    exact h.rates
  · intro i hi
    rcases hc.mem_installments.mp hi with ⟨hi, -⟩ | ⟨j, hj, -, rfl⟩
    · exact h.amounts i hi
    · exact h.amounts j hj
  · intro i hi hstatus
    rcases hc.mem_installments.mp hi with ⟨hi, hne⟩ | ⟨j, hj, hid, rfl⟩
    · exact hc.merchantPaid_of_ne hs h.referenced hne.symm (h.paid i hi hstatus)
    · obtain ⟨-, hcontract, hamount⟩ := hrow j hj hid
      exact hc.merchantPaid_of_eq hs h ha hid hcontract hamount hnone
  · intro i hi hstatus
    rcases hc.mem_installments.mp hi with ⟨hi, hne⟩ | ⟨j, -, -, rfl⟩
    · have hcount := hc.count i.installmentId
      rw [if_neg hne.symm, successPayments_eq, successPayments_eq, h.unpaid i hi hstatus] at hcount
      exact List.length_eq_zero_iff.mp hcount
    · exact absurd rfl hstatus

end collecting
end InstalFlow
