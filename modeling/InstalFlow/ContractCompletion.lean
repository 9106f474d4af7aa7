import InstalFlow.PayoutRun
import InstalFlow.PaymentReminder

/-!
# Completion of a contract

Payment jobs complete a contract when they find no PENDING installment of it
left, while the reminder worker moves unpaid installments out of PENDING. A
completed contract is fully paid as long as no job finds the unpaid ones moved.
-/

namespace InstalFlow
open Relational Transition

inductive ContractStep
  | pendingToDue (now : DateTime)
  | dueToOverdue (now : DateTime)
  | processPayment (verifyPaystack : String → Except String Verification) (job : PaymentJobData)
      (paymentId commissionId : String) (now : DateTime)

def InstallmentStatus.settled : InstallmentStatus → Bool
  | .paid | .voided => true
  | _ => false

def CompletedPaid (contractId : String) (db : Database) : Prop :=
  ∀ c ∈ db.financingContracts.find? contractId, c.status = .completed →
    ∀ i ∈ db.installments.rows, i.financingContractId = contractId → i.status.settled

instance (contractId : String) (db : Database) : Decidable (CompletedPaid contractId db) :=
  inferInstanceAs (Decidable (∀ c ∈ db.financingContracts.find? contractId, _ → _))

namespace ContractStep

def apply (db : Database) : ContractStep → Database
  | pendingToDue now => PaymentReminderWorker.pendingToDue now db
  | dueToOverdue now => PaymentReminderWorker.dueToOverdue now db
  | processPayment verifyPaystack job paymentId commissionId now =>
      committed db Prod.snd (PaymentWorker.process verifyPaystack job paymentId commissionId now db)

/-- A job that succeeds on an unpaid installment of the contract finds another
one PENDING unless all others are PAID or VOIDED. -/
def FindsUnpaidPending (contractId : String) (db : Database) : ContractStep → Prop
  | processPayment verifyPaystack job paymentId commissionId now =>
      (PaymentWorker.process verifyPaystack job paymentId commissionId now db).isOk →
      ∀ i ∈ db.installments.find? job.installmentId, i.financingContractId = contractId →
        i.status ≠ .paid →
        (∀ j ∈ db.installments.rows, j.financingContractId = contractId →
          j.installmentId ≠ i.installmentId → j.status ≠ .pending) →
        ∀ j ∈ db.installments.rows, j.financingContractId = contractId →
          j.installmentId ≠ i.installmentId → j.status.settled
  | _ => True

section steps
variable {contractId : String} {db : Database}

theorem completedPaid_transition (h : CompletedPaid contractId db)
    (source target : InstallmentStatus) (dueBy : DateTime → Bool) :
    CompletedPaid contractId (PaymentReminderWorker.transition source target dueBy db) := by
  intro c hc hcompleted i' hi' hid
  obtain ⟨i, hi, rfl⟩ := List.mem_map.mp hi'
  have hrow : db.financingContracts.find? contractId = some c := hc
  split at hid
  · rename_i hp
    simp only [PaymentReminderWorker.contractActive, decide_eq_true_eq] at hp
    have hactive := hp.2.2
    rw [hid, hrow, Option.map_some, hcompleted] at hactive
    cases hactive
  · rename_i hp
    rw [if_neg hp]
    exact h c hc hcompleted i hi hid

theorem isNone_nextPending_iff (contractId : String) (db : Database) :
    (PaymentWorker.nextPending contractId db).isNone ↔
    ∀ i ∈ db.installments.rows, i.financingContractId = contractId → i.status ≠ .pending := by
  rw [PaymentWorker.nextPending, Option.isNone_iff_eq_none, List.head?_eq_none_iff,
    ← List.length_eq_zero_iff, List.length_insertionSort, List.length_eq_zero_iff,
    List.filter_eq_nil_iff]
  simp

theorem forall_marked_iff {R : InstallmentStatus → Prop} (hpaid : R .paid) (contractId id : String)
    (now : DateTime) (db : Database) :
    (∀ i ∈ (PaymentWorker.markInstallmentPaid id now db).installments.rows,
      i.financingContractId = contractId → R i.status) ↔
    ∀ j ∈ db.installments.rows, j.financingContractId = contractId → j.installmentId ≠ id →
      R j.status := by
  simp only [PaymentWorker.markInstallmentPaid, Table.update, Table.updateMany, List.mem_map,
    forall_exists_index, and_imp, forall_apply_eq_imp_iff₂, decide_eq_true_eq]
  refine forall₂_congr fun j _ => ?_
  by_cases hj : j.installmentId = id
  · simp [hj, hpaid]
  · simp [hj]

theorem find?_contractsAfter {i : LoadedInstallment} {now : DateTime} (k : String) :
    (PaymentWorker.contractsAfter i now db).find? k =
      if (PaymentWorker.nextPending i.contract.contractId
          (PaymentWorker.markInstallmentPaid i.installment.installmentId now db)).isNone ∧
          k = i.contract.contractId then
        (db.financingContracts.find? k).map fun c =>
          { c with status := .completed, completedAt := some now }
      else db.financingContracts.find? k := by
  rw [PaymentWorker.contractsAfter]
  split
  · rename_i hnone
    simp only [hnone, true_and]
    exact Table.find?_update db.financingContracts i.contract.contractId k (fun c =>
      { c with status := .completed, completedAt := some now }) fun _ => rfl
  · rename_i hsome
    rw [if_neg fun h => hsome h.1]

theorem completedPaid_commits_iff (h : CompletedPaid contractId db) {id : String}
    {i : LoadedInstallment} {now : DateTime} {db' : Database}
    (hload : PaymentWorker.loadInstallment id db = some i)
    (hcommits : PaymentWorker.Commits i now db db') : CompletedPaid contractId db' ↔
      (i.installment.financingContractId = contractId →
        (∀ j ∈ db.installments.rows, j.financingContractId = contractId →
          j.installmentId ≠ i.installment.installmentId → j.status ≠ .pending) →
        ∀ j ∈ db.installments.rows, j.financingContractId = contractId →
          j.installmentId ≠ i.installment.installmentId → j.status.settled) := by
  obtain ⟨hinstallment, hcontract⟩ := PaymentWorker.loadInstallment_eq_some hload
  have hid : i.contract.contractId = i.installment.financingContractId := Table.find?_key hcontract
  have hsettled := forall_marked_iff (R := fun s => s.settled = true) rfl contractId
    i.installment.installmentId now db
  obtain ⟨payments, commissions, ledger, intents, rfl⟩ := hcommits.frame
  -- an installment of another contract changes neither the contract nor its installments
  by_cases hother : i.installment.financingContractId = contractId
  · subst hother
    have hnext := (isNone_nextPending_iff i.installment.financingContractId
      (PaymentWorker.markInstallmentPaid i.installment.installmentId now db)).trans
      (forall_marked_iff (R := fun s => s ≠ .pending) (by decide)
        i.installment.financingContractId i.installment.installmentId now db)
    simp only [CompletedPaid, find?_contractsAfter, hid, and_true, hsettled, hcontract, true_imp_iff]
    by_cases hnone : (PaymentWorker.nextPending i.installment.financingContractId
        (PaymentWorker.markInstallmentPaid i.installment.installmentId now db)).isNone
    · have hpending := hnext.mp hnone
      simp only [hnone, if_true, Option.map_some, Option.mem_def, Option.some.injEq, forall_eq',
        true_imp_iff]
      exact ⟨fun hs _ => hs, fun hs => hs hpending⟩
    · refine iff_of_true ?_ fun hpending => absurd (hnext.mpr hpending) hnone
      intro c hc hcompleted j hj hjc _
      rw [if_neg hnone] at hc
      exact h c (hcontract.trans hc) hcompleted j hj hjc
  · refine iff_of_true ?_ fun he => absurd he hother
    intro c hc hcompleted
    rw [hsettled]
    intro j hj hjc _
    rw [find?_contractsAfter, if_neg fun hk => hother (hid.symm.trans hk.2.symm)] at hc
    exact h c hc hcompleted j hj hjc

theorem completedPaid_apply_iff (h : CompletedPaid contractId db) (a : ContractStep) :
    CompletedPaid contractId (a.apply db) ↔ FindsUnpaidPending contractId db a := by
  cases a with
  | pendingToDue now => exact iff_of_true (completedPaid_transition h _ _ _) trivial
  | dueToOverdue now => exact iff_of_true (completedPaid_transition h _ _ _) trivial
  | processPayment verifyPaystack job paymentId commissionId now =>
    cases hr : PaymentWorker.process verifyPaystack job paymentId commissionId now db with
    | error e =>
      simp only [apply, FindsUnpaidPending, hr, committed_error, Except.isOk, Except.toBool,
        Bool.false_eq_true, false_imp_iff, iff_true]
      exact h
    | ok res =>
      obtain ⟨i, hload, ⟨hpaid, intents, hdb⟩ | ⟨hpaid, hcommits⟩⟩ := PaymentWorker.process_eq_ok hr
      · have hrow := (PaymentWorker.loadInstallment_eq_some hload).1
        simp only [apply, FindsUnpaidPending, hr, committed_ok, hdb, hrow]
        refine iff_of_true h ?_
        intro _ j hj _ hne
        cases hj
        exact absurd hpaid hne
      · have hrow := (PaymentWorker.loadInstallment_eq_some hload).1
        simp only [apply, FindsUnpaidPending, hr, committed_ok, hrow,
          completedPaid_commits_iff h hload hcommits]
        simp [Except.isOk, Except.toBool, hpaid]

end steps
end ContractStep

/-- From a contract that is not completed, a COMPLETED contract is paid along
exactly the runs whose payments find what is unpaid PENDING. -/
theorem completedPaid_throughout_iff {db : Database} {contractId : String}
    (h : ∀ c ∈ db.financingContracts.find? contractId, c.status = .active)
    (steps : List ContractStep) :
    Throughout ContractStep.apply (CompletedPaid contractId) db steps ↔
      Along ContractStep.apply (ContractStep.FindsUnpaidPending contractId) db steps := by
  refine throughout_iff_along (I := fun _ => True)
    (fun _ a _ hpaid => ContractStep.completedPaid_apply_iff hpaid a) (fun _ _ _ _ => trivial)
    trivial ?_
  intro c hc hcompleted
  rw [h c hc] at hcompleted
  cases hcompleted

def twoInstallments : Database where
  products := ⟨[{ productId := "product" }], by decide⟩
  financingContracts := ⟨[{ contractId := "k", userId := none, productId := "product" }], by decide⟩
  installments := ⟨[⟨"i1", "k", 0, 50, 1, .pending, none⟩, ⟨"i2", "k", 0, 50, 2, .pending, none⟩],
    by decide⟩
  paymentIntents := ⟨[{ intentId := "n1", type := .installment, reference := some "r1"
                        status := .processing, amount := 50, installmentId := some "i1"
                        expiresAt := 0 }], by decide⟩

def payFirst : ContractStep :=
  .processPayment (fun _ => .ok { status := "success", id := some 1 }) ⟨"i1", "r1"⟩ "p1" "c1" 0

theorem findsUnpaidPending_twoInstallments : Along ContractStep.apply
    (ContractStep.FindsUnpaidPending "k") twoInstallments [payFirst] :=
  (completedPaid_throughout_iff (by decide +kernel) _).mp (by decide +kernel)

/-- Once both installments are DUE, paying the first completes the contract. -/
theorem completed_with_due_installment : ¬ CompletedPaid "k"
    (run ContractStep.apply twoInstallments [.pendingToDue 0, payFirst]) := by
  decide +kernel

end InstalFlow
