import InstalFlow.ContractOperations
import InstalFlow.CustomerCompany
import InstalFlow.OperationPostings

/-!
# The receivable of a contract

What is posted to CUSTOMER_RECEIVABLE for one contract, beside what its customer
owes. A payment takes its amount off both sides, but the activation of a contract
posts nothing, a restructuring posts the new total beside what was still open, and
a write-off takes off what is not PAID of the total.
-/

namespace InstalFlow
open Relational Transition

namespace ContractOperation

/-- The transaction that an operation posts, with its contract. -/
def posting? (db : Database) : ContractOperation → Option (String × LedgerTransaction)
  | restructure offset contractId adminUserId newTerms installmentId now =>
    match RestructureContractSchema.parse newTerms,
      FinancingService.findForRestructure contractId adminUserId db,
      FinancingService.restructureContract offset contractId adminUserId newTerms installmentId now
        db with
    | .ok terms, .ok o, .ok _ => some (contractId, FinancingService.restructurePosting o terms now db)
    | _, _, _ => none
  | writeOff contractId companyUserId reason now =>
    match FinancingService.findForWriteOff contractId companyUserId db,
      FinancingService.writeOffContract contractId companyUserId reason now db with
    | .ok o, .ok _ => some (contractId, FinancingService.writeOffPosting o reason now db)
    | _, _ => none
  | _ => none

end ContractOperation

/-- What posts to the receivable of a contract or changes its installments. -/
inductive ReceivableStep
  | approveApplication (applicationId reviewerId : String) (m : KycMoment)
  | processPayment (verifyPaystack : String → Except String Verification) (job : PaymentJobData)
      (paymentId commissionId : String) (now : DateTime)
  | operation (op : ContractOperation)

namespace ReceivableStep

def apply (db : Database) : ReceivableStep → Database
  | approveApplication applicationId reviewerId m => committed db Prod.snd
      (KycService.approveApplication applicationId reviewerId m db)
  | processPayment verifyPaystack job paymentId commissionId now => committed db Prod.snd
      (PaymentWorker.process verifyPaystack job paymentId commissionId now db)
  | operation op => op.apply db

def posting? (db : Database) : ReceivableStep → Option (String × LedgerTransaction)
  | approveApplication _ _ _ => none
  | processPayment verifyPaystack job paymentId commissionId now =>
      (PaymentWorker.recorded? verifyPaystack job paymentId commissionId now db).map fun i =>
        (i.contract.contractId, PaymentWorker.paymentPosting i job.reference)
  | operation op => op.posting? db

end ReceivableStep

/-- Debits minus credits of the receivable -/
def LedgerTransaction.receivable (data : LedgerTransaction) : ℚ :=
  LedgerService.changeOf "CUSTOMER_RECEIVABLE" .asset data.entries

/-- The database, and what has been posted to the receivable for the contract. -/
structure ReceivableState where
  db : Database
  posted : ℚ

def ReceivableStep.posted (contractId : String) (db : Database) (e : ReceivableStep) : ℚ :=
  (((e.posting? db).filter fun p => p.1 = contractId).map fun p => p.2.receivable).getD 0

def receivableStep (contractId : String) (s : ReceivableState) (e : ReceivableStep) :
    ReceivableState where
  db := e.apply s.db
  posted := s.posted + e.posted contractId s.db

def owes (contractId : String) (i : Installment) : Bool :=
  i.financingContractId = contractId ∧ !i.status.settled

/-- The amounts of the installments that are neither PAID nor VOIDED. -/
def owed (contractId : String) (db : Database) : ℚ :=
  db.installments.sumWhere (owes contractId) Installment.amount

/-- `owed` without one installment -/
def owedBesides (contractId installmentId : String) (db : Database) : ℚ :=
  db.installments.sumWhere (fun i => owes contractId i ∧ i.installmentId ≠ installmentId)
    Installment.amount

def FinancingStatus.closed : FinancingStatus → Bool
  | .completed | .writtenOff => true
  | _ => false

structure Receivable (contractId : String) (s : ReceivableState) : Prop where
  owed : s.posted = owed contractId s.db
  nonneg : 0 ≤ s.posted
  closed : ∀ c ∈ s.db.financingContracts.find? contractId, c.status.closed = true → s.posted = 0

instance (contractId : String) (s : ReceivableState) : Decidable (Receivable contractId s) :=
  decidable_of_iff (s.posted = InstalFlow.owed contractId s.db ∧ 0 ≤ s.posted ∧
    ∀ c ∈ s.db.financingContracts.find? contractId, c.status.closed = true → s.posted = 0)
    ⟨fun h => ⟨h.1, h.2.1, h.2.2⟩, fun h => ⟨h.owed, h.nonneg, h.closed⟩⟩

/-- A step that commits for the contract finds it in order: an activation schedules
nothing, a payment is of an installment that is not VOIDED and completes the
contract only with nothing else owed, a restructuring schedules what it posts and
what is owed, and a write-off takes off what is owed. -/
def BooksReceivable (contractId : String) (db : Database) : ReceivableStep → Prop
  | .approveApplication applicationId reviewerId m =>
    approves applicationId reviewerId m db = true →
    ∀ c ∈ KycService.contractOf applicationId db, c.contractId = contractId →
      InstallmentService.totalInCents c.totalFinanced = 0
  | .processPayment verifyPaystack job paymentId commissionId now =>
    ∀ i ∈ PaymentWorker.recorded? verifyPaystack job paymentId commissionId now db,
      i.contract.contractId = contractId →
      (i.installment.status = .voided → i.installment.amount = 0) ∧
      ((∀ j ∈ db.installments.rows, j.financingContractId = contractId →
          j.installmentId ≠ i.installment.installmentId → j.status ≠ .pending) →
        owedBesides contractId i.installment.installmentId db = 0)
  | .operation (.restructure offset id adminUserId newTerms installmentId now) =>
    id = contractId →
    (FinancingService.restructureContract offset id adminUserId newTerms installmentId now
      db).isOk = true →
    ∀ terms ∈ (RestructureContractSchema.parse newTerms).toOption,
    ∀ c ∈ db.financingContracts.find? contractId,
      (InstallmentService.totalInCents (FinancingService.newTotalFinanced c terms db) : ℚ) / 100 =
        owed contractId db + FinancingService.newTotalFinanced c terms db
  | .operation (.writeOff id companyUserId reason now) =>
    id = contractId →
    (FinancingService.writeOffContract id companyUserId reason now db).isOk = true →
    ∀ c ∈ db.financingContracts.find? contractId,
      FinancingService.remainingAmount c db = owed contractId db
  | .operation _ => True

section postings
variable {contractId : String} {db db' : Database}

theorem receivable_paymentPosting (i : LoadedInstallment) (reference : String) :
    (PaymentWorker.paymentPosting i reference).receivable = -i.installment.amount := by
  simp only [LedgerTransaction.receivable, LedgerService.changeOf, PaymentWorker.paymentPosting,
    PaymentWorker.paymentEntries]
  split <;> split <;> simp [LedgerService.balanceChange]

theorem receivable_restructurePosting (o : OwnedContract) (terms : RestructureTerms)
    (now : DateTime) (db : Database) :
    (FinancingService.restructurePosting o terms now db).receivable =
      FinancingService.newTotalFinanced o.contract terms db := by
  simp [LedgerTransaction.receivable, LedgerService.changeOf, FinancingService.restructurePosting,
    LedgerService.balanceChange]

theorem receivable_writeOffPosting (o : OwnedContract) (reason : String) (now : DateTime)
    (db : Database) : (FinancingService.writeOffPosting o reason now db).receivable =
      -FinancingService.remainingAmount o.contract db := by
  simp [LedgerTransaction.receivable, LedgerService.changeOf, FinancingService.writeOffPosting,
    LedgerService.balanceChange]

theorem ReceivableStep.posted_of_none {e : ReceivableStep} (h : e.posting? db = none) :
    e.posted contractId db = 0 := by
  rw [posted, h]
  rfl

theorem ReceivableStep.posted_of_some {e : ReceivableStep} {id : String} {data : LedgerTransaction}
    (h : e.posting? db = some (id, data)) :
    e.posted contractId db = if id = contractId then data.receivable else 0 := by
  rw [posted, h, Option.filter_some]
  by_cases hid : id = contractId <;> simp [hid]

/-- A step writes to the ledger what it posts, and nothing else. -/
theorem ReceivableStep.apply_posted (db : Database) (e : ReceivableStep) :
    Operation.Posted db.ledger (e.apply db).ledger ((e.posting? db).map Prod.snd) := by
  cases e with
  | approveApplication applicationId reviewerId m =>
    refine committed_rule (P := fun db' => db'.ledger = db.ledger) rfl fun result h => ?_
    obtain ⟨r, signature, -, -, -, hcommit⟩ := KycService.approveApplication_eq_ok h
    cases signature with
    | marketer =>
      cases hcommit
      rfl
    | admin =>
      obtain ⟨application, -, ⟨-, rfl⟩ | ⟨-, contract, -, hactivates, -⟩⟩ :=
        KycService.recordAdminApproval_eq_ok hcommit
      · rfl
      · obtain ⟨referrals, assets, hdb⟩ := hactivates.elsewhere
        rw [hdb]
        rfl
  | processPayment verifyPaystack job paymentId commissionId now =>
    have hposted := (Operation.processPayment verifyPaystack job paymentId commissionId
      now).apply_posted db
    simp only [Operation.posting?, Operation.apply] at hposted
    simp only [apply, posting?, Option.map_map]
    exact hposted
  | operation op =>
    cases op with
    | pendingToDue now => rfl
    | dueToOverdue now => rfl
    | markDefaulted contractId late =>
      simp only [apply, ContractOperation.apply, markDefaulted]
      split <;> rfl
    | restructure offset id adminUserId newTerms installmentId now =>
      simp only [apply, posting?, ContractOperation.posting?, ContractOperation.apply]
      cases h : FinancingService.restructureContract offset id adminUserId newTerms installmentId
        now db with
      | error err => simp [Operation.Posted]
      | ok result =>
        obtain ⟨terms, o, schedule, hterms, hr⟩ := FinancingService.restructureContract_eq_ok h
        rw [hterms, hr.found]
        exact hr.closes.ledger
    | writeOff id companyUserId reason now =>
      simp only [apply, posting?, ContractOperation.posting?, ContractOperation.apply]
      cases h : FinancingService.writeOffContract id companyUserId reason now db with
      | error err => simp [Operation.Posted]
      | ok result =>
        obtain ⟨o, ho, hcloses⟩ := FinancingService.writeOffContract_eq_ok h
        rw [ho]
        exact hcloses.ledger

end postings

section amounts
variable {contractId : String} {db db' : Database}

/-- The installments of the contract are of no negative amount. -/
def AmountsNonneg (contractId : String) (db : Database) : Prop :=
  ∀ i ∈ db.installments.rows, i.financingContractId = contractId → 0 ≤ i.amount

theorem AmountsNonneg.owed_nonneg (h : AmountsNonneg contractId db) : 0 ≤ owed contractId db := by
  refine Table.sumWhere_nonneg fun i hi howes => h i hi ?_
  exact (of_decide_eq_true howes).1

theorem AmountsNonneg.owedBesides_nonneg (h : AmountsNonneg contractId db)
    (installmentId : String) : 0 ≤ owedBesides contractId installmentId db := by
  refine Table.sumWhere_nonneg fun i hi howes => h i hi ?_
  exact (of_decide_eq_true (of_decide_eq_true howes).1).1

theorem AmountsNonneg.updateMany {p : Installment → Bool} {f : Installment → Installment}
    (hf : ∀ i, (f i).installmentId = i.installmentId)
    (hkeep : ∀ i, (f i).financingContractId = i.financingContractId ∧ (f i).amount = i.amount)
    (h : AmountsNonneg contractId db) :
    AmountsNonneg contractId { db with installments := db.installments.updateMany p f hf } := by
  intro i hi hcontract
  have hi : i ∈ (db.installments.updateMany p f hf).rows := hi
  rcases Table.mem_updateMany.mp hi with ⟨hi, -⟩ | ⟨j, hj, -, rfl⟩
  · exact h i hi hcontract
  · rw [(hkeep j).2]
    exact h j hj ((hkeep j).1.symm.trans hcontract)

theorem AmountsNonneg.append {rows : List Installment}
    (hrows : db'.installments.rows = db.installments.rows ++ rows) (h : AmountsNonneg contractId db)
    (hnew : ∀ i ∈ rows, 0 ≤ i.amount) : AmountsNonneg contractId db' := by
  intro i hi hcontract
  rw [hrows, List.mem_append] at hi
  rcases hi with hi | hi
  · exact h i hi hcontract
  · exact hnew i hi

/-- Rows that change to another status on the same side are owed as before. -/
theorem owed_updateMany {p : Installment → Bool} {f : Installment → Installment}
    (hf : ∀ i, (f i).installmentId = i.installmentId)
    (hkeep : ∀ i, (f i).financingContractId = i.financingContractId ∧ (f i).amount = i.amount)
    (hside : ∀ i, p i = true → (f i).status.settled = i.status.settled) :
    owed contractId { db with installments := db.installments.updateMany p f hf } =
      owed contractId db := by
  refine Table.sumWhere_updateMany_of _ p f hf fun i _ hp => ?_
  rw [Table.term, Table.term, owes, owes, (hkeep i).1, (hkeep i).2, hside i hp]

/-- New PENDING rows of a contract are owed. -/
theorem owed_append {id : String} {rows : List Installment}
    (hrows : db'.installments.rows = db.installments.rows ++ rows)
    (hnew : ∀ i ∈ rows, i.financingContractId = id ∧ i.status = .pending) :
    owed contractId db' =
      owed contractId db + if id = contractId then (rows.map Installment.amount).sum else 0 := by
  rw [owed, Table.sumWhere_append hrows, owed]
  congr 1
  split
  · rename_i hid
    rw [List.filter_eq_self.mpr fun i hi => ?_]
    simp [owes, (hnew i hi).1, (hnew i hi).2, hid, InstallmentStatus.settled]
  · rename_i hid
    rw [List.filter_eq_nil_iff.mpr fun i hi => ?_]
    · rfl
    · simp [owes, (hnew i hi).1, hid]

theorem owed_voidInstallments (id : String) :
    owed contractId (FinancingService.voidInstallments id db) =
      if id = contractId then 0 else owed contractId db := by
  split
  · rename_i hid
    refine Table.sumWhere_eq_zero fun i hi => ?_
    have hi : i ∈ (db.installments.updateMany (fun i => i.financingContractId = id ∧
      i.status.voidable) FinancingService.voidedRow fun _ => rfl).rows := hi
    rcases Table.mem_updateMany.mp hi with ⟨-, hp⟩ | ⟨j, -, -, rfl⟩
    · simpa [owes, hid, voidable_eq] using hp
    · simp [owes, FinancingService.voidedRow, InstallmentStatus.settled]
  · rename_i hid
    refine Table.sumWhere_updateMany_of _ _ FinancingService.voidedRow (fun _ => rfl) ?_
    intro i _ hp
    have hcontract : i.financingContractId = id := (of_decide_eq_true hp).1
    simp [Table.term, owes, FinancingService.voidedRow, hcontract, hid]

/-- A payment takes its installment out of what is owed. -/
theorem owed_markInstallmentPaid {i : Installment} (now : DateTime)
    (hi : db.installments.find? i.installmentId = some i) :
    owed contractId (PaymentWorker.markInstallmentPaid i.installmentId now db) =
      owed contractId db - if owes contractId i then i.amount else 0 := by
  have hpaid : owes contractId { i with status := .paid, paidAt := some now } = false := by
    simp [owes, InstallmentStatus.settled]
  refine (Table.sumWhere_update hi (fun j => { j with status := .paid, paidAt := some now })
    (fun _ => rfl) (owes contractId) Installment.amount).trans ?_
  rw [Table.term, Table.term, hpaid, if_neg Bool.false_ne_true, zero_sub, ← sub_eq_add_neg]
  rfl

theorem owedBesides_eq (contractId : String) {i : Installment}
    (hi : db.installments.find? i.installmentId = some i) :
    owedBesides contractId i.installmentId db =
      owed contractId db - if owes contractId i then i.amount else 0 := by
  rw [← owed_markInstallmentPaid 0 hi, owedBesides, owed, PaymentWorker.markInstallmentPaid,
    Table.sumWhere_eq_sum_term, Table.sumWhere_eq_sum_term, Table.update, Table.updateMany,
    List.map_map]
  congr 1
  refine List.map_congr_left fun j _ => ?_
  by_cases hj : j.installmentId = i.installmentId
  · simp [Table.term, owes, hj, InstallmentStatus.settled]
  · simp [Table.term, owes, hj]

theorem sum_numberedAfter (offset : ℕ) (installmentId : ℕ → String)
    (schedule : List InstallmentCreateInput) :
    (((FinancingService.numberedAfter offset schedule).map fun row =>
      row.row (installmentId row.sequence)).map Installment.amount).sum =
      (schedule.map InstallmentCreateInput.amount).sum := by
  rw [FinancingService.numberedAfter, List.map_map, List.map_map]
  rfl

end amounts

section steps
variable {contractId : String} {db db' : Database} {s s' : ReceivableState}

theorem receivable_iff (h : AmountsNonneg contractId s.db) : Receivable contractId s ↔
    s.posted = owed contractId s.db ∧
      ∀ c ∈ s.db.financingContracts.find? contractId, c.status.closed = true →
        owed contractId s.db = 0 := by
  constructor
  · intro hs
    exact ⟨hs.owed, fun c hc hclosed => hs.owed ▸ hs.closed c hc hclosed⟩
  · intro hs
    exact ⟨hs.1, hs.1 ▸ h.owed_nonneg, fun c hc hclosed => hs.1.trans (hs.2 c hc hclosed)⟩

theorem Receivable.of_same (h : Receivable contractId s) (hposted : s'.posted = s.posted)
    (howed : InstalFlow.owed contractId s'.db = InstalFlow.owed contractId s.db)
    (hclosed : ∀ c ∈ s'.db.financingContracts.find? contractId, c.status.closed = true →
      ∃ c ∈ s.db.financingContracts.find? contractId, c.status.closed = true) :
    Receivable contractId s' := by
  refine ⟨by rw [hposted, howed, h.owed], hposted ▸ h.nonneg, fun c' hc' hstatus => ?_⟩
  obtain ⟨c, hc, hstatus⟩ := hclosed c' hc' hstatus
  exact hposted.trans (h.closed c hc hstatus)

theorem scheduleRows_pending {p : ScheduleParams} {schedule : List InstallmentCreateInput}
    (h : InstallmentService.generateInstallmentSchedule p = .ok schedule)
    {row : InstallmentCreateInput} (hrow : row ∈ schedule) :
    row.financingContractId = p.financingContractId ∧ row.status = .pending := by
  obtain ⟨i, -, rfl⟩ := (InstallmentService.mem_schedule h).mp hrow
  exact ⟨rfl, rfl⟩

section activation
variable {r : Review} {contract : FinancingContract} {m : KycMoment}

theorem owed_activates (contractId : String) (h : KycService.Activates r contract m db db') :
    owed contractId db' = owed contractId db + if contract.contractId = contractId then
      (InstallmentService.totalInCents contract.totalFinanced : ℚ) / 100 else 0 := by
  obtain ⟨schedule, hschedule, hrows, -⟩ := h.installments
  rw [owed_append hrows fun i hi => ?_]
  · rw [List.map_map, ← InstallmentService.sum_schedule hschedule]
    rfl
  · obtain ⟨row, hrow, rfl⟩ := List.mem_map.mp hi
    exact scheduleRows_pending hschedule hrow

theorem amountsNonneg_activates (h : KycService.Activates r contract m db db')
    (ha : AmountsNonneg contractId db) : AmountsNonneg contractId db' := by
  obtain ⟨schedule, hschedule, hrows, -⟩ := h.installments
  refine ha.append hrows fun i hi => ?_
  obtain ⟨row, hrow, rfl⟩ := List.mem_map.mp hi
  exact InstallmentService.amount_nonneg hschedule hrow

theorem find?_contract_activates (contractId : String) (h : KycService.Activates r contract m db db') :
    db'.financingContracts.find? contractId = if contractId = contract.contractId then
      (db.financingContracts.find? contractId).map (KycService.activatedContract m.userId m.now)
    else db.financingContracts.find? contractId := by
  rw [h.contracts]
  exact Table.find?_update db.financingContracts contract.contractId contractId
    (KycService.activatedContract m.userId m.now) fun _ => rfl

end activation

/-- An activation posts nothing, so it has to schedule nothing. -/
theorem receivable_approve_iff (hs : Receivable contractId s) (applicationId reviewerId : String)
    (m : KycMoment) :
    Receivable contractId
        (receivableStep contractId s (.approveApplication applicationId reviewerId m)) ↔
      BooksReceivable contractId s.db (.approveApplication applicationId reviewerId m) := by
  have hposted :
      (receivableStep contractId s (.approveApplication applicationId reviewerId m)).posted =
        s.posted := add_zero _
  have hbooks : approves applicationId reviewerId m s.db = true ↔
      ∃ db', KycService.approveApplication applicationId reviewerId m s.db =
        .ok (.approved, db') := approves_iff
  cases h : KycService.approveApplication applicationId reviewerId m s.db with
  | error err =>
    have hdb : (receivableStep contractId s (.approveApplication applicationId reviewerId m)).db =
        s.db := by
      simp only [receivableStep, ReceivableStep.apply, h, committed_error]
    refine iff_of_true (hs.of_same hposted (by rw [hdb]) fun c hc hstatus => ?_) fun happroves => ?_
    · exact ⟨c, hdb ▸ hc, hstatus⟩
    · obtain ⟨db', hdb'⟩ := hbooks.mp happroves
      rw [h] at hdb'
      cases hdb'
  | ok result =>
    have hdb : (receivableStep contractId s (.approveApplication applicationId reviewerId m)).db =
        result.2 := by
      simp only [receivableStep, ReceivableStep.apply, h, committed_ok]
    rcases KycService.approveApplication_cases h with
      ⟨happroved, r, contract, -, -, hcontract, hactivates⟩ | ⟨hne, hinstallments, hcontracts⟩
    · have happroves : approves applicationId reviewerId m s.db = true :=
        hbooks.mpr ⟨result.2, by rw [h, ← happroved]⟩
      have howed := owed_activates contractId hactivates
      have hfind := find?_contract_activates contractId hactivates
      have hbefore : owed contractId (KycService.signAsAdmin r m s.db) = owed contractId s.db := rfl
      simp only [BooksReceivable, happroves, hcontract, true_imp_iff, Option.mem_def,
        Option.some.injEq, forall_eq']
      by_cases hid : contract.contractId = contractId
      · subst hid
        rw [if_pos rfl, hbefore] at howed
        rw [if_pos rfl] at hfind
        constructor
        · intro hafter _
          have heq := hafter.owed
          rw [hposted, hdb, howed, hs.owed] at heq
          have hzero : (InstallmentService.totalInCents contract.totalFinanced : ℚ) / 100 = 0 := by
            linarith
          exact_mod_cast (div_eq_zero_iff.mp hzero).resolve_right (by norm_num)
        · intro hzero
          rw [hzero rfl, Int.cast_zero, zero_div, add_zero] at howed
          refine hs.of_same hposted (by rw [hdb, howed]) fun c hc hstatus => ?_
          rw [hdb, hfind, Option.mem_def, Option.map_eq_some_iff] at hc
          obtain ⟨_, -, rfl⟩ := hc
          cases hstatus
      · rw [if_neg hid, add_zero, hbefore] at howed
        rw [if_neg fun he => hid he.symm] at hfind
        refine iff_of_true (hs.of_same hposted (by rw [hdb, howed]) fun c hc hstatus => ?_)
          fun he => absurd he hid
        rw [hdb, hfind] at hc
        exact ⟨c, hc, hstatus⟩
    · refine iff_of_true (hs.of_same hposted ?_ fun c hc hstatus => ?_) fun happroves => ?_
      · rw [hdb, owed, hinstallments, owed]
      · rw [hdb, hcontracts] at hc
        exact ⟨c, hc, hstatus⟩
      · obtain ⟨db', hdb'⟩ := hbooks.mp happroves
        rw [h, Except.ok.injEq] at hdb'
        exact absurd (by rw [hdb']) hne

section payment
variable {verifyPaystack : String → Except String Verification} {job : PaymentJobData}
  {paymentId commissionId : String} {now : DateTime}

variable (verifyPaystack job paymentId commissionId now) in
/-- A job records a payment of its unpaid installment, or touches intents at most. -/
theorem processPayment_cases (db : Database) :
    (PaymentWorker.recorded? verifyPaystack job paymentId commissionId now db = none ∧
      ∃ paymentIntents,
        (ReceivableStep.processPayment verifyPaystack job paymentId commissionId now).apply db =
          { db with paymentIntents }) ∨
    ∃ i, PaymentWorker.recorded? verifyPaystack job paymentId commissionId now db = some i ∧
      PaymentWorker.loadInstallment job.installmentId db = some i ∧ i.installment.status ≠ .paid ∧
      PaymentWorker.Commits i now db
        ((ReceivableStep.processPayment verifyPaystack job paymentId commissionId now).apply db) := by
  simp only [PaymentWorker.recorded?, ReceivableStep.apply]
  cases h : PaymentWorker.process verifyPaystack job paymentId commissionId now db with
  | error err => exact .inl ⟨rfl, db.paymentIntents, rfl⟩
  | ok result =>
    rcases PaymentWorker.process_recorded h with
      ⟨hresult, intents, hdb⟩ | ⟨recorded, i, hresult, hload, -⟩
    · rw [← Prod.mk.eta (p := result), hresult]
      exact .inl ⟨rfl, intents, hdb⟩
    · obtain ⟨i', hload', hpaid⟩ := PaymentWorker.process_eq_ok h
      rw [hload] at hload'
      cases hload'
      rcases hpaid with ⟨hpaid, intents, -⟩ | ⟨hpaid, hcommits⟩
      · -- a PAID installment is only marked, so nothing is recorded for it
        rw [PaymentWorker.process, hload] at h
        simp only [hpaid, if_true] at h
        split at h
        · cases h
          cases hresult
        · split at h
          · cases h
          · cases h
            cases hresult
      · refine .inr ⟨i, ?_, hload, hpaid, hcommits⟩
        rw [← Prod.mk.eta (p := result), hresult]
        exact hload

section commits
variable {installmentId : String} {i : LoadedInstallment}

theorem AmountsNonneg.commits (ha : AmountsNonneg contractId db)
    (h : PaymentWorker.Commits i now db db') : AmountsNonneg contractId db' := by
  obtain ⟨payments, commissions, ledger, intents, rfl⟩ := h.frame
  exact ha.updateMany (p := fun j => j.installmentId = i.installment.installmentId)
    (f := fun j => { j with status := .paid, paidAt := some now }) (fun _ => rfl)
    fun _ => ⟨rfl, rfl⟩

theorem find?_of_loadInstallment (h : PaymentWorker.loadInstallment installmentId db = some i) :
    db.installments.find? i.installment.installmentId = some i.installment := by
  have hfind := (PaymentWorker.loadInstallment_eq_some h).1
  rw [Table.find?_key hfind]
  exact hfind

theorem contractId_of_loadInstallment
    (h : PaymentWorker.loadInstallment installmentId db = some i) :
    i.contract.contractId = i.installment.financingContractId :=
  Table.find?_key (PaymentWorker.loadInstallment_eq_some h).2

theorem owed_commits (contractId : String)
    (hload : PaymentWorker.loadInstallment installmentId db = some i)
    (h : PaymentWorker.Commits i now db db') : owed contractId db' =
      owed contractId db - if owes contractId i.installment then i.installment.amount else 0 := by
  obtain ⟨payments, commissions, ledger, intents, rfl⟩ := h.frame
  exact owed_markInstallmentPaid now (find?_of_loadInstallment hload)

theorem find?_contract_commits (contractId : String) (h : PaymentWorker.Commits i now db db') :
    db'.financingContracts.find? contractId =
      (PaymentWorker.contractsAfter i now db).find? contractId := by
  obtain ⟨payments, commissions, ledger, intents, rfl⟩ := h.frame
  rfl

/-- The contract's own payment has to find nothing VOIDED, and owes nothing more when
it completes the contract. -/
theorem receivable_own_iff (hs : Receivable contractId s) (ha : AmountsNonneg contractId s.db)
    (hload : PaymentWorker.loadInstallment installmentId s.db = some i)
    (hunpaid : i.installment.status ≠ .paid) (hown : i.contract.contractId = contractId)
    (hcommits : PaymentWorker.Commits i now s.db s'.db)
    (hposted : s'.posted = s.posted - i.installment.amount) :
    Receivable contractId s' ↔
      (i.installment.status = .voided → i.installment.amount = 0) ∧
      ((∀ j ∈ s.db.installments.rows, j.financingContractId = contractId →
          j.installmentId ≠ i.installment.installmentId → j.status ≠ .pending) →
        owedBesides contractId i.installment.installmentId s.db = 0) := by
  have hrow := find?_of_loadInstallment hload
  have hid := contractId_of_loadInstallment hload
  have hcontract := (PaymentWorker.loadInstallment_eq_some hload).2
  have hbesides := owedBesides_eq contractId hrow
  rw [receivable_iff (ha.commits hcommits), hposted, owed_commits contractId hload hcommits,
    hs.owed, find?_contract_commits _ hcommits]
  simp only [ContractStep.find?_contractsAfter, hown]
  rw [← hbesides]
  -- what is posted and what is owed part only over a VOIDED installment
  refine and_congr ?_ ?_
  · have hstatus : owes contractId i.installment = !i.installment.status.settled := by
      simp [owes, ← hid, hown]
    rw [hbesides, sub_right_inj, hstatus]
    cases hcase : i.installment.status <;>
      simp_all [InstallmentStatus.settled]
  · have hnext := (ContractStep.isNone_nextPending_iff contractId
      (PaymentWorker.markInstallmentPaid i.installment.installmentId now s.db)).trans
      (ContractStep.forall_marked_iff (R := fun status => status ≠ .pending) (by decide)
        contractId i.installment.installmentId now s.db)
    rw [← hid, hown] at hcontract
    rw [← hnext, hcontract]
    by_cases hnone : (PaymentWorker.nextPending contractId
        (PaymentWorker.markInstallmentPaid i.installment.installmentId now s.db)).isNone
    · rw [if_pos ⟨hnone, trivial⟩]
      simp only [Option.map_some, Option.mem_def, Option.some.injEq, forall_eq',
        FinancingStatus.closed, true_imp_iff, hnone]
    · rw [if_neg fun he => hnone he.1]
      refine iff_of_true (fun c hc hstatus => ?_) fun he => absurd he hnone
      have hzero := hs.closed c (hcontract.trans hc) hstatus
      have hbefore := ha.owedBesides_nonneg i.installment.installmentId
      have hamount : 0 ≤ if owes contractId i.installment then i.installment.amount else 0 := by
        split
        · exact ha _ (Table.mem_of_find? hrow) (hid.symm.trans hown)
        · exact le_rfl
      rw [hs.owed] at hzero
      linarith

theorem Receivable.of_other (hs : Receivable contractId s)
    (hload : PaymentWorker.loadInstallment installmentId s.db = some i)
    (hother : i.contract.contractId ≠ contractId)
    (hcommits : PaymentWorker.Commits i now s.db s'.db) (hposted : s'.posted = s.posted) :
    Receivable contractId s' := by
  have howes : owes contractId i.installment = false := by
    simp [owes, ← contractId_of_loadInstallment hload, hother]
  refine hs.of_same hposted ?_ fun c hc hstatus => ⟨c, ?_, hstatus⟩
  · rw [owed_commits contractId hload hcommits, howes, if_neg Bool.false_ne_true, sub_zero]
  · rw [find?_contract_commits _ hcommits, ContractStep.find?_contractsAfter,
      if_neg fun he => hother he.2.symm] at hc
    exact hc

end commits

theorem receivable_payment_iff (hs : Receivable contractId s) (ha : AmountsNonneg contractId s.db) :
    Receivable contractId (receivableStep contractId s
        (.processPayment verifyPaystack job paymentId commissionId now)) ↔
      BooksReceivable contractId s.db
        (.processPayment verifyPaystack job paymentId commissionId now) := by
  rcases processPayment_cases verifyPaystack job paymentId commissionId now s.db with
    ⟨hnone, intents, hdb⟩ | ⟨i, hsome, hload, hunpaid, hcommits⟩
  · have hposting : (ReceivableStep.processPayment verifyPaystack job paymentId commissionId
        now).posting? s.db = none := by
      rw [ReceivableStep.posting?, hnone]
      rfl
    refine iff_of_true (hs.of_same ?_ ?_ fun c hc hstatus => ⟨c, ?_, hstatus⟩) ?_
    · rw [receivableStep, ReceivableStep.posted_of_none hposting, add_zero]
    · rw [receivableStep, hdb]
      rfl
    · rw [receivableStep, hdb] at hc
      exact hc
    · rw [BooksReceivable, hnone]
      intro i hi
      cases hi
  · have hposting : (ReceivableStep.processPayment verifyPaystack job paymentId commissionId
        now).posting? s.db =
        some (i.contract.contractId, PaymentWorker.paymentPosting i job.reference) := by
      rw [ReceivableStep.posting?, hsome]
      rfl
    simp only [BooksReceivable, hsome, Option.mem_def, Option.some.injEq, forall_eq']
    by_cases hown : i.contract.contractId = contractId
    · refine (receivable_own_iff hs ha hload hunpaid hown hcommits ?_).trans
        ⟨fun h _ => h, fun h => h hown⟩
      rw [receivableStep, ReceivableStep.posted_of_some hposting, if_pos hown,
        receivable_paymentPosting, sub_eq_add_neg]
    · refine iff_of_true (hs.of_other hload hown hcommits ?_) fun he => absurd he hown
      rw [receivableStep, ReceivableStep.posted_of_some hposting, if_neg hown, add_zero]

end payment

section operations
variable {id : String} {f : FinancingContract → FinancingContract} {rows : List Installment}
  {posting : LedgerTransaction}

theorem owed_closes (h : FinancingService.Closes id f rows posting db db')
    (hnew : ∀ i ∈ rows, i.financingContractId = id ∧ i.status = .pending) :
    owed contractId db' =
      if id = contractId then (rows.map Installment.amount).sum else owed contractId db := by
  rw [owed_append h.installments hnew, owed_voidInstallments]
  split <;> simp

theorem find?_contract_closes (contractId : String)
    (h : FinancingService.Closes id f rows posting db db') :
    db'.financingContracts.find? contractId = if contractId = id then
      (db.financingContracts.find? contractId).map f else db.financingContracts.find? contractId := by
  obtain ⟨hf, hcontracts⟩ := h.contracts
  rw [hcontracts, Table.find?_update]

theorem amountsNonneg_closes (h : FinancingService.Closes id f rows posting db db')
    (hnew : ∀ i ∈ rows, 0 ≤ i.amount) (ha : AmountsNonneg contractId db) :
    AmountsNonneg contractId db' := by
  have hvoided : AmountsNonneg contractId (FinancingService.voidInstallments id db) :=
    ha.updateMany (f := FinancingService.voidedRow) (fun _ => rfl) fun _ => ⟨rfl, rfl⟩
  exact hvoided.append h.installments hnew

/-- An operation that closes another contract, or that refuses, changes nothing here. -/
theorem Receivable.of_closes_other (hs : Receivable contractId s) {e : ReceivableStep}
    {data : LedgerTransaction} (hid : id ≠ contractId)
    (hposting : e.posting? s.db = some (id, data))
    (h : FinancingService.Closes id f rows posting s.db (e.apply s.db))
    (hnew : ∀ i ∈ rows, i.financingContractId = id ∧ i.status = .pending) :
    Receivable contractId (receivableStep contractId s e) := by
  refine hs.of_same ?_ ?_ fun c hc hstatus => ⟨c, ?_, hstatus⟩
  · rw [receivableStep, ReceivableStep.posted_of_some hposting, if_neg hid, add_zero]
  · rw [receivableStep, owed_closes h hnew, if_neg hid]
  · rw [receivableStep, find?_contract_closes _ h, if_neg fun he => hid he.symm] at hc
    exact hc

theorem receivable_refused {e : ReceivableStep} (hs : Receivable contractId s)
    (hposting : e.posting? s.db = none) (hdb : e.apply s.db = s.db) :
    Receivable contractId (receivableStep contractId s e) := by
  refine hs.of_same ?_ ?_ fun c hc hstatus => ⟨c, ?_, hstatus⟩
  · rw [receivableStep, ReceivableStep.posted_of_none hposting, add_zero]
  · rw [receivableStep, hdb]
  · rw [receivableStep, hdb] at hc
    exact hc

section restructure
variable {offset : ℕ} {adminUserId : String} {newTerms : RestructureInput}
  {installmentId : ℕ → String} {now : DateTime} {terms : RestructureTerms} {o : OwnedContract}
  {schedule : List InstallmentCreateInput}

theorem restructured_rows
    (hr : FinancingService.Restructures offset id adminUserId terms o schedule installmentId now
      db db') {i : Installment} (hi : i ∈ (FinancingService.numberedAfter offset schedule).map
        fun row => row.row (installmentId row.sequence)) :
    (i.financingContractId = id ∧ i.status = .pending) ∧ 0 ≤ i.amount := by
  obtain ⟨row, hrow, rfl⟩ := List.mem_map.mp hi
  obtain ⟨before, hbefore, rfl⟩ := List.mem_map.mp hrow
  have hkey : o.contract.contractId = id :=
    Table.find?_key (FinancingService.findForRestructure_eq_ok hr.found).1
  obtain ⟨hid, hpending⟩ := scheduleRows_pending hr.scheduled hbefore
  exact ⟨⟨hid.trans hkey, hpending⟩, InstallmentService.amount_nonneg hr.scheduled hbefore⟩

theorem owed_restructures
    (hr : FinancingService.Restructures offset id adminUserId terms o schedule installmentId now
      db db') : owed id db' =
      (InstallmentService.totalInCents (FinancingService.newTotalFinanced o.contract terms db) : ℚ)
        / 100 := by
  rw [owed_closes hr.closes fun i hi => (restructured_rows hr hi).1, if_pos rfl, sum_numberedAfter,
    InstallmentService.sum_schedule hr.scheduled]

theorem receivable_restructure_iff (hs : Receivable contractId s)
    (ha : AmountsNonneg contractId s.db) :
    Receivable contractId (receivableStep contractId s
        (.operation (.restructure offset id adminUserId newTerms installmentId now))) ↔
      BooksReceivable contractId s.db
        (.operation (.restructure offset id adminUserId newTerms installmentId now)) := by
  cases h : FinancingService.restructureContract offset id adminUserId newTerms installmentId now
      s.db with
  | error err =>
    refine iff_of_true (receivable_refused hs ?_ ?_) ?_
    · simp [ReceivableStep.posting?, ContractOperation.posting?, h]
    · simp [ReceivableStep.apply, ContractOperation.apply, h]
    · simp [BooksReceivable, h, Except.isOk, Except.toBool]
  | ok result =>
    obtain ⟨terms, o, schedule, hterms, hr⟩ := FinancingService.restructureContract_eq_ok h
    have hcontract := (FinancingService.findForRestructure_eq_ok hr.found).1
    have happly : (ReceivableStep.operation
        (.restructure offset id adminUserId newTerms installmentId now)).apply s.db = result.2 := by
      rw [ReceivableStep.apply, ContractOperation.apply, h, committed_ok]
    have hposting : (ReceivableStep.operation
        (.restructure offset id adminUserId newTerms installmentId now)).posting? s.db =
        some (id, FinancingService.restructurePosting o terms now s.db) := by
      simp only [ReceivableStep.posting?, ContractOperation.posting?, hterms, hr.found, h]
    by_cases hid : id = contractId
    · subst hid
      have hposted : (receivableStep id s (.operation
          (.restructure offset id adminUserId newTerms installmentId now))).posted =
          s.posted + FinancingService.newTotalFinanced o.contract terms s.db := by
        rw [receivableStep, ReceivableStep.posted_of_some hposting, if_pos rfl,
          receivable_restructurePosting]
      have hdb : (receivableStep id s (.operation
          (.restructure offset id adminUserId newTerms installmentId now))).db = result.2 := happly
      have hafter : AmountsNonneg id (receivableStep id s (.operation
          (.restructure offset id adminUserId newTerms installmentId now))).db := by
        rw [hdb]
        exact amountsNonneg_closes hr.closes (fun i hi => (restructured_rows hr hi).2) ha
      rw [receivable_iff hafter, hdb, hposted, owed_restructures hr, hs.owed,
        find?_contract_closes _ hr.closes, if_pos rfl, hcontract]
      simp only [BooksReceivable, h, hterms, hcontract, Except.isOk, Except.toBool, Except.toOption,
        Option.mem_def, Option.some.injEq, forall_eq', true_imp_iff, Option.map_some]
      constructor
      · intro hbooked
        exact hbooked.1.symm
      · intro hbooked
        refine ⟨hbooked.symm, fun hclosed => ?_⟩
        cases hclosed
    · refine iff_of_true (hs.of_closes_other hid hposting (happly ▸ hr.closes) fun i hi =>
        (restructured_rows hr hi).1) fun he => absurd he hid

end restructure

theorem receivable_writeOff_iff {companyUserId reason : String} {now : DateTime}
    (hs : Receivable contractId s) (ha : AmountsNonneg contractId s.db) :
    Receivable contractId (receivableStep contractId s
        (.operation (.writeOff id companyUserId reason now))) ↔
      BooksReceivable contractId s.db (.operation (.writeOff id companyUserId reason now)) := by
  cases h : FinancingService.writeOffContract id companyUserId reason now s.db with
  | error err =>
    refine iff_of_true (receivable_refused hs ?_ ?_) ?_
    · simp [ReceivableStep.posting?, ContractOperation.posting?, h]
    · simp [ReceivableStep.apply, ContractOperation.apply, h]
    · simp [BooksReceivable, h, Except.isOk, Except.toBool]
  | ok result =>
    obtain ⟨o, ho, hcloses⟩ := FinancingService.writeOffContract_eq_ok h
    have hcontract := (FinancingService.findForWriteOff_eq_ok ho).1
    have happly : (ReceivableStep.operation (.writeOff id companyUserId reason now)).apply s.db =
        result.2 := by
      rw [ReceivableStep.apply, ContractOperation.apply, h, committed_ok]
    have hposting : (ReceivableStep.operation
        (.writeOff id companyUserId reason now)).posting? s.db =
        some (id, FinancingService.writeOffPosting o reason now s.db) := by
      simp only [ReceivableStep.posting?, ContractOperation.posting?, ho, h]
    by_cases hid : id = contractId
    · subst hid
      have hposted : (receivableStep id s (.operation
          (.writeOff id companyUserId reason now))).posted =
          s.posted - FinancingService.remainingAmount o.contract s.db := by
        rw [receivableStep, ReceivableStep.posted_of_some hposting, if_pos rfl,
          receivable_writeOffPosting, sub_eq_add_neg]
      have hdb : (receivableStep id s (.operation
          (.writeOff id companyUserId reason now))).db = result.2 := happly
      have howed : owed id result.2 = 0 := by
        rw [owed_closes hcloses (by simp), if_pos rfl]
        rfl
      have hafter : AmountsNonneg id (receivableStep id s (.operation
          (.writeOff id companyUserId reason now))).db := by
        rw [hdb]
        exact amountsNonneg_closes hcloses (by simp) ha
      rw [receivable_iff hafter, hdb, hposted, howed, hs.owed]
      simp only [BooksReceivable, h, hcontract, Except.isOk, Except.toBool, Option.mem_def,
        Option.some.injEq, forall_eq', true_imp_iff, implies_true, and_true]
      rw [sub_eq_zero, eq_comm]
    · refine iff_of_true (hs.of_closes_other hid hposting (happly ▸ hcloses) (by simp))
        fun he => absurd he hid

theorem receivable_transition (hs : Receivable contractId s) (source target : InstallmentStatus)
    (hsource : source.settled = false) (htarget : target.settled = false)
    (dueBy : DateTime → Bool) {e : ReceivableStep} (hposting : e.posting? s.db = none)
    (happly : e.apply s.db = PaymentReminderWorker.transition source target dueBy s.db) :
    Receivable contractId (receivableStep contractId s e) := by
  refine hs.of_same ?_ ?_ fun c hc hstatus => ⟨c, ?_, hstatus⟩
  · rw [receivableStep, ReceivableStep.posted_of_none hposting, add_zero]
  · rw [receivableStep, happly]
    refine owed_updateMany (f := fun i => { i with status := target }) (fun _ => rfl)
      (fun _ => ⟨rfl, rfl⟩) fun i hi => ?_
    rw [(of_decide_eq_true hi).1, hsource, htarget]
  · rw [receivableStep, happly] at hc
    exact hc

theorem receivable_markDefaulted (hs : Receivable contractId s) (late : Installment → Bool) :
    Receivable contractId (receivableStep contractId s (.operation (.markDefaulted id late))) := by
  have hposted : (receivableStep contractId s (.operation (.markDefaulted id late))).posted =
      s.posted := by
    rw [receivableStep, ReceivableStep.posted_of_none rfl, add_zero]
  by_cases hmay : (s.db.financingContracts.find? id).any (fun c => c.status.mayDefault) = true
  · have happly : (ReceivableStep.operation (.markDefaulted id late)).apply s.db = { s.db with
        financingContracts := s.db.financingContracts.update id defaultedContract (fun _ => rfl)
        installments := s.db.installments.updateMany
          (fun i => i.financingContractId = id ∧ i.status.voidable ∧ late i) defaultedRow
          (fun _ => rfl) } := if_pos hmay
    refine hs.of_same hposted ?_ fun c hc hstatus => ?_
    · rw [receivableStep, happly]
      refine owed_updateMany (f := defaultedRow) (fun _ => rfl) (fun _ => ⟨rfl, rfl⟩) fun i hi => ?_
      have hvoidable := (of_decide_eq_true hi).2.1
      rw [voidable_eq, Bool.not_eq_true'] at hvoidable
      rw [hvoidable]
      rfl
    · have hfind := Table.find?_update s.db.financingContracts id contractId defaultedContract
        fun _ => rfl
      have hc : (s.db.financingContracts.update id defaultedContract fun _ => rfl).find? contractId =
          some c := by
        rw [receivableStep, happly] at hc
        exact hc
      rw [hfind] at hc
      split at hc
      · obtain ⟨_, -, rfl⟩ := Option.map_eq_some_iff.mp hc
        cases hstatus
      · exact ⟨c, hc, hstatus⟩
  · have happly : (ReceivableStep.operation (.markDefaulted id late)).apply s.db = s.db := if_neg hmay
    exact receivable_refused hs rfl happly

end operations

theorem amountsNonneg_apply (ha : AmountsNonneg contractId db) (e : ReceivableStep) :
    AmountsNonneg contractId (e.apply db) := by
  cases e with
  | approveApplication applicationId reviewerId m =>
    refine committed_rule (P := AmountsNonneg contractId) ha fun result h => ?_
    rcases KycService.approveApplication_cases h with
      ⟨-, r, contract, -, -, -, hactivates⟩ | ⟨-, hinstallments, -⟩
    · exact amountsNonneg_activates hactivates ha
    · rw [AmountsNonneg, hinstallments]
      exact ha
  | processPayment verifyPaystack job paymentId commissionId now =>
    rcases processPayment_cases verifyPaystack job paymentId commissionId now db with
      ⟨-, intents, hdb⟩ | ⟨i, -, -, -, hcommits⟩
    · rw [hdb]
      exact ha
    · obtain ⟨payments, commissions, ledger, intents, hdb⟩ := hcommits.frame
      have hmarked := ha.updateMany (p := fun j => j.installmentId = i.installment.installmentId)
        (f := fun j => { j with status := .paid, paidAt := some now }) (fun _ => rfl)
        fun _ => ⟨rfl, rfl⟩
      rw [hdb]
      exact hmarked
  | operation op =>
    cases op with
    | pendingToDue now =>
      exact ha.updateMany (f := fun i => { i with status := .due }) (fun _ => rfl)
        fun _ => ⟨rfl, rfl⟩
    | dueToOverdue now =>
      exact ha.updateMany (f := fun i => { i with status := .overdue }) (fun _ => rfl)
        fun _ => ⟨rfl, rfl⟩
    | markDefaulted id late =>
      rw [ReceivableStep.apply, ContractOperation.apply, markDefaulted]
      split
      · exact ha.updateMany (f := defaultedRow) (fun _ => rfl) fun _ => ⟨rfl, rfl⟩
      · exact ha
    | restructure offset id adminUserId newTerms installmentId now =>
      refine committed_rule (P := AmountsNonneg contractId) ha fun result h => ?_
      obtain ⟨terms, o, schedule, -, hr⟩ := FinancingService.restructureContract_eq_ok h
      exact amountsNonneg_closes hr.closes (fun i hi => (restructured_rows hr hi).2) ha
    | writeOff id companyUserId reason now =>
      refine committed_rule (P := AmountsNonneg contractId) ha fun result h => ?_
      obtain ⟨o, -, hcloses⟩ := FinancingService.writeOffContract_eq_ok h
      exact amountsNonneg_closes hcloses (by simp) ha

theorem receivable_step_iff (hs : Receivable contractId s) (ha : AmountsNonneg contractId s.db)
    (e : ReceivableStep) :
    Receivable contractId (receivableStep contractId s e) ↔ BooksReceivable contractId s.db e := by
  cases e with
  | approveApplication applicationId reviewerId m =>
    exact receivable_approve_iff hs applicationId reviewerId m
  | processPayment verifyPaystack job paymentId commissionId now =>
    exact receivable_payment_iff hs ha
  | operation op =>
    cases op with
    | pendingToDue now =>
      exact iff_of_true (receivable_transition hs .pending .due rfl rfl
        (fun dueDate => dueDate ≤ PaymentReminderWorker.todayStart now) rfl rfl) trivial
    | dueToOverdue now =>
      exact iff_of_true (receivable_transition hs .due .overdue rfl rfl (fun dueDate =>
        dueDate < PaymentReminderWorker.todayStart now - 3 * PaymentReminderWorker.dayMs) rfl rfl)
        trivial
    | markDefaulted id late => exact iff_of_true (receivable_markDefaulted hs late) trivial
    | restructure offset id adminUserId newTerms installmentId now =>
      exact receivable_restructure_iff hs ha
    | writeOff id companyUserId reason now => exact receivable_writeOff_iff hs ha

end steps

/-- The receivable of a new contract equals what is owed along exactly those runs
in which every step books what it changes. -/
theorem receivable_throughout_iff (contractId : String) (db : Database)
    (hnew : ∀ i ∈ db.installments.rows, i.financingContractId ≠ contractId)
    (steps : List ReceivableStep) :
    Throughout (receivableStep contractId) (Receivable contractId) ⟨db, 0⟩ steps ↔
      Along (receivableStep contractId) (fun s e => BooksReceivable contractId s.db e)
        ⟨db, 0⟩ steps := by
  have howed : owed contractId db = 0 := by
    refine Table.sumWhere_eq_zero fun i hi => ?_
    simp [owes, hnew i hi]
  refine throughout_iff_along (I := fun s => AmountsNonneg contractId s.db)
    (fun s e ha hs => receivable_step_iff hs ha e) (fun s e ha _ => amountsNonneg_apply ha e)
    (fun i hi he => absurd he (hnew i hi)) ?_
  exact ⟨howed.symm, le_rfl, fun _ _ _ => rfl⟩

/-- An application at its last approval, and a DEFAULTED contract that was never
activated. -/
def twoContracts : Database where
  users := ⟨[{ userId := "chief", role := .company, companyId := some "firm" },
    { userId := "ada", email := "ada@x.y", companyId := some "firm" }], by decide⟩
  products := ⟨[{ productId := "oven" }], by decide⟩
  onboardingSessions := ⟨[{ sessionId := "ses", name := "Bo", email := "bo@x.y"
                            passwordHash := "h", companyId := some "firm"
                            status := .kycSubmitted, expiresAt := 9 }], by decide⟩
  kycApplications := ⟨[{ kycApplicationId := "app", onboardingSessionId := some "ses"
                         productId := "oven" }], by decide⟩
  financingContracts := ⟨[{ contractId := "new", userId := none, productId := "oven"
                            kycApplicationId := "app", approvedDurationMonths := 2
                            totalFinanced := 100, status := .pendingActivation },
    { contractId := "old", userId := some "ada", productId := "oven", totalFinanced := 100
      status := .defaulted }], by decide⟩
  paymentIntents := ⟨[{ intentId := "n₁", type := .installment, reference := some "r₁"
                        status := .processing, amount := 50, expiresAt := 0 },
    { intentId := "n₂", type := .installment, reference := some "r₂", status := .processing
      amount := 60, expiresAt := 0 }], by decide⟩

def chargeOf (installmentId reference paymentId : String) : ReceivableStep :=
  .processPayment (fun _ => .ok { status := "success" }) ⟨installmentId, reference⟩ paymentId
    paymentId 0

def activateNew : ReceivableStep :=
  .approveApplication "app" "chief"
    { now := 0, userId := "bo", installmentId := fun n => s!"new{n}" }

/-- The activation books nothing, so the first payment makes the receivable negative. -/
theorem activation_books_nothing :
    (fun s : ReceivableState => (s.posted, owed "new" s.db))
      (run (receivableStep "new") ⟨twoContracts, 0⟩ [activateNew, chargeOf "new1" "r₁" "p₁"]) =
        (-50, 50) ∧
    ¬ Throughout (receivableStep "new") (Receivable "new") ⟨twoContracts, 0⟩ [activateNew] := by
  decide +kernel

/-- Restructured to two installments and paid, the other contract is booked in full. -/
theorem restructured_contract_booked :
    Along (receivableStep "old") (fun s e => BooksReceivable "old" s.db e) ⟨twoContracts, 0⟩
      [.operation (.restructure 0 "old" "chief" ⟨10, 2, 0⟩ (fun n => s!"old{n}") 0),
        chargeOf "old1" "r₁" "p₁", chargeOf "old2" "r₂" "p₂"] :=
  (receivable_throughout_iff "old" twoContracts (by decide) _).mp (by decide +kernel)

end InstalFlow
