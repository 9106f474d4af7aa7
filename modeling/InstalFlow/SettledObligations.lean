import InstalFlow.ContractOperations
import InstalFlow.InstallmentCollection

/-!
# Settled and cancelled obligations

Payment jobs run beside the operations on their contract. A job reads the
installment and its contract in front of its transaction and then marks the
installment PAID whatever it has become, and the contract COMPLETED when no
PENDING installment is left. So a job that was on its way undoes a write-off.
-/

namespace InstalFlow
open Relational Transition

/-- The flows that touch the installments of a contract. An operation is one
transaction, so one statement here. -/
inductive ContractFlow
  | payment (flow : InstallmentFlow)
  | operation (op : ContractOperation)

def ContractFlow.program : ContractFlow → IntentProgram Unit
  | payment flow => flow.program
  | operation op =>
      IntentProgram.send (.elsewhere (fun db => op.apply db) op.apply_paymentIntents)
        fun _ _ => .ok ()

def IntentWrite.Contractual (w : IntentWrite) : Prop :=
  w.Collects (fun _ => True) ∨
    ∃ op : ContractOperation, w = .elsewhere (fun db => op.apply db) op.apply_paymentIntents

theorem ContractFlow.contractual (flow : ContractFlow) :
    Program.Sends IntentWrite.Contractual flow.program.run := by
  cases flow with
  | payment flow =>
    exact (flow.collecting fun _ _ _ _ => trivial).imp fun w hw => .inl hw
  | operation op => exact ⟨.inr ⟨op, rfl⟩, fun _ _ => trivial⟩

/-- What is PAID, VOIDED or WRITTEN_OFF of a contract is so afterwards. -/
structure StaysSettled (contractId : String) (db db' : Database) : Prop where
  installments : ∀ i ∈ db.installments.rows, i.financingContractId = contractId →
    i.status.settled = true →
    (db'.installments.find? i.installmentId).map Installment.status = some i.status
  contract : ∀ c ∈ db.financingContracts.find? contractId, c.status = .writtenOff →
    (db'.financingContracts.find? contractId).map FinancingContract.status = some .writtenOff

instance (contractId : String) (db db' : Database) : Decidable (StaysSettled contractId db db') :=
  decidable_of_iff
    ((∀ i ∈ db.installments.rows, i.financingContractId = contractId → i.status.settled = true →
      (db'.installments.find? i.installmentId).map Installment.status = some i.status) ∧
    ∀ c ∈ db.financingContracts.find? contractId, c.status = .writtenOff →
      (db'.financingContracts.find? contractId).map FinancingContract.status = some .writtenOff)
    ⟨fun h => ⟨h.1, h.2⟩, fun h => ⟨h.1, h.2⟩⟩

/-- The commit of a job, unless a unique key refuses it, finds its installment not
VOIDED, and leaves another one PENDING if the contract is WRITTEN_OFF. -/
def FindsOpen (contractId : String) (db : Database) : IntentWrite → Prop
  | .collect a => (a.collect db).isOk = true →
    (∀ i ∈ db.installments.find? a.loaded.installment.installmentId,
      i.financingContractId = contractId → i.status ≠ .voided) ∧
    (a.loaded.contract.contractId = contractId →
      ∀ c ∈ db.financingContracts.find? contractId, c.status = .writtenOff →
        ∃ j ∈ db.installments.rows, j.financingContractId = contractId ∧
          j.installmentId ≠ a.loaded.installment.installmentId ∧ j.status = .pending)
  | _ => True

section writes
variable {contractId : String} {db db' : Database} {a : PaymentAttempt}

theorem StaysSettled.of_eq (hi : db'.installments = db.installments)
    (hc : db'.financingContracts = db.financingContracts) : StaysSettled contractId db db' := by
  refine ⟨fun i hmem _ _ => ?_, fun c hfind hstatus => ?_⟩
  · rw [hi, Table.find?_of_mem hmem]
    rfl
  · rw [hc, Option.mem_def.mp hfind, Option.map_some, hstatus]

theorem staysSettled_operation (op : ContractOperation) :
    StaysSettled contractId db (op.apply db) := by
  refine ⟨fun i hmem _ hsettled => ?_, fun c hfind hstatus => ?_⟩
  · rw [op.find?_apply_of_settled hmem hsettled]
    rfl
  · rw [op.find?_apply_of_writtenOff hfind hstatus, Option.map_some, hstatus]

theorem installments_collect_iff (h : a.collect db = .ok db') :
    (∀ i ∈ db.installments.rows, i.financingContractId = contractId → i.status.settled = true →
      (db'.installments.find? i.installmentId).map Installment.status = some i.status) ↔
    ∀ i ∈ db.installments.find? a.loaded.installment.installmentId,
      i.financingContractId = contractId → i.status ≠ .voided := by
  constructor
  · intro hstays i hi hcontract hvoided
    have hid := Table.find?_key hi
    have hstatus := hstays i (Table.mem_of_find? hi) hcontract (by rw [hvoided]; rfl)
    rw [find?_collect h, if_pos hid, hid, hi, hvoided] at hstatus
    cases hstatus
  · intro hopen i hmem hcontract hsettled
    have hi := Table.find?_of_mem hmem
    rw [find?_collect h]
    split
    · rename_i hid
      have hne := hopen i (hid ▸ hi) hcontract
      rw [hi]
      cases hstatus : i.status <;> simp_all [InstallmentStatus.settled]
    · rw [hi]
      rfl

theorem contract_collect_iff (h : a.collect db = .ok db') :
    (∀ c ∈ db.financingContracts.find? contractId, c.status = .writtenOff →
      (db'.financingContracts.find? contractId).map FinancingContract.status = some .writtenOff) ↔
    (a.loaded.contract.contractId = contractId →
      ∀ c ∈ db.financingContracts.find? contractId, c.status = .writtenOff →
        ∃ j ∈ db.installments.rows, j.financingContractId = contractId ∧
          j.installmentId ≠ a.loaded.installment.installmentId ∧ j.status = .pending) := by
  obtain ⟨_, _, _, _, -, -, -, rfl⟩ := PaymentAttempt.collect_eq_ok h
  have hnext := (ContractStep.isNone_nextPending_iff a.loaded.contract.contractId
    (PaymentWorker.markInstallmentPaid a.loaded.installment.installmentId a.now db)).trans
    (ContractStep.forall_marked_iff (R := fun s => s ≠ .pending) (by decide)
      a.loaded.contract.contractId a.loaded.installment.installmentId a.now db)
  simp only [ContractStep.find?_contractsAfter]
  by_cases hid : contractId = a.loaded.contract.contractId
  · subst hid
    simp only [and_true, true_imp_iff]
    refine forall₃_congr fun c hc hstatus => ?_
    rw [Option.mem_def.mp hc]
    by_cases hnone : (PaymentWorker.nextPending a.loaded.contract.contractId
        (PaymentWorker.markInstallmentPaid a.loaded.installment.installmentId a.now db)).isNone
    · have hpending := hnext.mp hnone
      rw [if_pos hnone]
      constructor
      · intro he
        cases he
      · rintro ⟨j, hj, hjc, hne, hstatus⟩
        exact absurd hstatus (hpending j hj hjc hne)
    · rw [if_neg hnone, Option.map_some, hstatus]
      refine iff_of_true rfl ?_
      by_contra hall
      exact hnone (hnext.mpr fun j hj hjc hne hstatus => hall ⟨j, hj, hjc, hne, hstatus⟩)
  · refine iff_of_true (fun c hc hstatus => ?_) fun he => absurd he.symm hid
    rw [if_neg fun he => hid he.2, Option.mem_def.mp hc, Option.map_some, hstatus]

/-- Of all statements only the commit of a job can undo what is settled. -/
theorem staysSettled_execute_iff (m : Moment) {w : IntentWrite} (hw : w.Contractual) :
    StaysSettled contractId db (w.execute m db) ↔ FindsOpen contractId db w := by
  by_cases hcollect : ∃ a, w = .collect a
  · obtain ⟨a, rfl⟩ := hcollect
    simp only [IntentWrite.execute, FindsOpen]
    cases h : a.collect db with
    | error err =>
      refine iff_of_true (.of_eq rfl rfl) fun he => ?_
      cases he
    | ok db' =>
      rw [committed_ok, ← installments_collect_iff h, ← contract_collect_iff h]
      exact ⟨fun hs _ => ⟨hs.installments, hs.contract⟩, fun hs => ⟨(hs rfl).1, (hs rfl).2⟩⟩
  · have hfinds : FindsOpen contractId db w := by
      cases w with
      | collect a => exact absurd ⟨a, rfl⟩ hcollect
      | _ => trivial
    refine iff_of_true ?_ hfinds
    rcases hw with hw | ⟨op, rfl⟩
    · obtain ⟨paymentIntents, heq⟩ :=
        execute_paymentIntents m db hw fun a ha => hcollect ⟨a, ha⟩
      rw [heq]
      exact .of_eq rfl rfl
    · exact staysSettled_operation op

end writes

section runs
variable {ι : Type} [DecidableEq ι]

/-- In every interleaving, what is settled of a contract stays so along exactly
those schedules in which every job that commits finds its installment open. -/
theorem settled_stays_iff (flows : ι → ContractFlow) (contractId : String) (db : Database)
    (schedule : List (ι × Moment)) :
    Along performIntent (fun c l => StaysSettled contractId c.shared (performIntent c l).shared)
        (launch (fun i => (flows i).program) db) schedule ↔
      Along performIntent
        (fun c l => ∀ w ∈ (c.threads l.1).pending, FindsOpen contractId c.shared w)
        (launch (fun i => (flows i).program) db) schedule := by
  refine along_iff_along
    (I := fun c : IntentThreads ι => ∀ i, (c.threads i).Sends IntentWrite.Contractual)
    (fun c l hc => ?_) (fun c l hc _ => perform_sends hc l) fun i => (flows i).contractual
  rw [performIntent, perform_shared, Program.advance_shared]
  cases hw : (c.threads l.1).pending with
  | none => simpa using StaysSettled.of_eq rfl rfl
  | some w => simp [staysSettled_execute_iff l.2 ((hc l.1).pending w hw)]

end runs

/-- A DEFAULTED contract of which one installment is open. -/
def overdueContract : Database where
  users := ⟨[{ userId := "cus", email := "cus@mail", companyId := some "shop" },
    { userId := "boss", role := .company, companyId := some "shop" }], by decide⟩
  products := ⟨[{ productId := "bike" }], by decide⟩
  kycApplications := ⟨[{ kycApplicationId := "kyc", userId := some "cus", productId := "bike" }],
    by decide⟩
  financingContracts := ⟨[{ contractId := "con", userId := some "cus", productId := "bike"
                            kycApplicationId := "kyc", totalFinanced := 80
                            status := .defaulted }], by decide⟩
  installments := ⟨[{ installmentId := "ins", financingContractId := "con", dueDate := 0
                      amount := 80, sequence := 1, status := .overdue }], by decide⟩

/-- A payment with its webhook and job, and a write-off. -/
def paymentAndWriteOff : Fin 4 → ContractFlow
  | 0 => .payment (.initializePayment "ins" "cus")
  | 1 => .payment (.chargeSuccess ⟨"r'", 8000, some { installmentId := some "ins" }⟩)
  | 2 => .payment (.job ⟨"ins", "r'"⟩ "pay" "com")
  | 3 => .operation (.writeOff "con" "boss" "no answer" 0)

/-- The customer opens the payment, the contract is written off, and the charge succeeds. -/
def lateCharge : List (Fin 4 × Moment) :=
  [(0, 12), (3, 1), (1, 4), (2, 14)].flatMap fun b => List.replicate b.2 (b.1, chargeMoment)

theorem late_charge_undoes_write_off :
    (fun db => ((db.installments.find? "ins").map Installment.status,
        (db.financingContracts.find? "con").map fun c => (c.status, c.writeOffReason)))
      (run performIntent (launch (fun i => (paymentAndWriteOff i).program) overdueContract)
        lateCharge).shared = (some .paid, some (.completed, some "no answer")) ∧
    ¬ Along performIntent (fun c l => StaysSettled "con" c.shared (performIntent c l).shared)
      (launch (fun i => (paymentAndWriteOff i).program) overdueContract) lateCharge := by
  decide +kernel

end InstalFlow
