import InstalFlow.Restructuring
import Mathlib.Algebra.Group.Submonoid.BigOperators

/-!
# What a write-off removes

A write-off posts the total of its contract without what is PAID, and voids the open
installments. The two amounts part where the total is not of whole kobo, and where PAID rows
stand beside the total: those from before a restructuring, and those that were VOIDED when
they were paid.
-/

namespace InstalFlow
open Relational Transition

def FinancingStatus.live : FinancingStatus → Bool
  | .active | .defaulted | .restructured => true
  | _ => false

/-- The database, and what was paid of the contract beside its present total -/
structure WriteOffHistory where
  db : Database
  stray : ℚ

/-- A restructuring takes its total from what is left and keeps the PAID rows; a payment of a
VOIDED installment is in no total. -/
def WriteOffHistory.strayAfter (contractId : String) (s : WriteOffHistory) : ReceivableStep → ℚ
  | .processPayment verifyPaystack job paymentId commissionId now =>
    s.stray + (((PaymentWorker.recorded? verifyPaystack job paymentId commissionId now s.db).filter
      fun i => i.contract.contractId = contractId ∧ i.installment.status = .voided).map
        fun i => i.installment.amount).getD 0
  | .operation (.restructure offset id adminUserId newTerms installmentId now) =>
    if id = contractId ∧ (FinancingService.restructureContract offset id adminUserId newTerms
        installmentId now s.db).isOk then
      FinancingService.paidAmount contractId s.db
    else s.stray
  | _ => s.stray

def writeOffStep (contractId : String) (s : WriteOffHistory) (e : ReceivableStep) :
    WriteOffHistory where
  db := e.apply s.db
  stray := s.strayAfter contractId e

/-- The amounts of the installments that change to VOIDED -/
def newlyVoided (db db' : Database) : ℚ :=
  db.installments.sumWhere (fun i => i.status ≠ .voided ∧
    (db'.installments.find? i.installmentId).any fun j => j.status = .voided) Installment.amount

/-- A write-off returns and posts the amounts of the installments it voids. -/
structure RemovesOwed (db : Database) (result : WrittenOffContract × Database) : Prop where
  voided : result.1.outstandingAmount = newlyVoided db result.2
  nonneg : 0 ≤ result.1.outstandingAmount
  posted : ∃ data, LedgerService.recordTransaction data db.ledger = .ok result.2.ledger ∧
    LedgerService.changeOf "BAD_DEBT_EXPENSE" .expense data.entries =
      result.1.outstandingAmount ∧
    LedgerService.changeOf "CUSTOMER_RECEIVABLE" .asset data.entries =
      -result.1.outstandingAmount

/-- The numbers and amounts of the installments of a contract -/
def rowTerms (contractId : String) (db : Database) : List (ℕ × ℚ) :=
  (db.installments.rows.filter fun i => i.financingContractId = contractId).map
    fun i => (i.sequence, i.amount)

/-- An installment that is not VOIDED -/
def stands (contractId : String) (i : Installment) : Bool :=
  i.financingContractId = contractId ∧ i.status ≠ .voided

/-- What is PAID and what is owed of a contract -/
def standing (contractId : String) (db : Database) : ℚ :=
  db.installments.sumWhere (stands contractId) Installment.amount

/-- The rows of a contract are PAID or owed for its total and what is stray; before its
activation it has none. -/
structure PaidOrOwed (contractId : String) (s : WriteOffHistory) : Prop where
  unscheduled : ∀ c ∈ s.db.financingContracts.find? contractId, c.status = .pendingActivation →
    rowTerms contractId s.db = [] ∧ s.stray = 0
  started : ∀ c ∈ s.db.financingContracts.find? contractId, c.status ≠ .pendingActivation →
    1 ∈ (rowTerms contractId s.db).map Prod.fst
  balance : ∀ c ∈ s.db.financingContracts.find? contractId, c.status.live = true →
    standing contractId s.db =
      (InstallmentService.totalInCents c.totalFinanced : ℚ) / 100 + s.stray
  amounts : ∀ t ∈ rowTerms contractId s.db, t.2 ∈ kobo ∧ 0 ≤ t.2
  stray : s.stray ∈ kobo ∧ 0 ≤ s.stray

section rows
variable {contractId id : String} {db db' : Database} {rows : List Installment}

theorem mem_rowTerms {t : ℕ × ℚ} : t ∈ rowTerms contractId db ↔
    ∃ i ∈ db.installments.rows, i.financingContractId = contractId ∧ (i.sequence, i.amount) = t := by
  simp [rowTerms, and_assoc]

theorem rowTerms_updateMany {p : Installment → Bool} {f : Installment → Installment}
    (hf : ∀ i, (f i).installmentId = i.installmentId)
    (hkeep : ∀ i, (f i).financingContractId = i.financingContractId ∧ (f i).sequence = i.sequence ∧
      (f i).amount = i.amount) :
    rowTerms contractId { db with installments := db.installments.updateMany p f hf } =
      rowTerms contractId db := by
  suffices hrows : ∀ rows : List Installment,
      ((rows.map fun r => if p r then f r else r).filter
        fun i => i.financingContractId = contractId).map (fun i => (i.sequence, i.amount)) =
      (rows.filter fun i => i.financingContractId = contractId).map
        fun i => (i.sequence, i.amount) from hrows db.installments.rows
  intro rows
  induction rows with
  | nil => rfl
  | cons i rows ih =>
    have hi : (if p i then f i else i).financingContractId = i.financingContractId ∧
        ((if p i then f i else i).sequence, (if p i then f i else i).amount) =
          (i.sequence, i.amount) := by
      split
      · rw [(hkeep i).1, (hkeep i).2.1, (hkeep i).2.2]
        exact ⟨rfl, rfl⟩
      · exact ⟨rfl, rfl⟩
    rw [List.map_cons, List.filter_cons, List.filter_cons, hi.1]
    split
    · rw [List.map_cons, List.map_cons, ih, hi.2]
    · exact ih

theorem rowTerms_append (contractId : String)
    (hrows : db'.installments.rows = db.installments.rows ++ rows)
    (hnew : ∀ i ∈ rows, i.financingContractId = id) :
    rowTerms contractId db' = rowTerms contractId db ++
      if id = contractId then rows.map fun i => (i.sequence, i.amount) else [] := by
  rw [rowTerms, hrows, List.filter_append, List.map_append, rowTerms]
  congr 1
  split
  · rename_i hid
    rw [List.filter_eq_self.mpr fun i hi => decide_eq_true ((hnew i hi).trans hid)]
  · rename_i hid
    rw [List.filter_eq_nil_iff.mpr fun i hi => ?_]
    · rfl
    · rw [hnew i hi]
      exact fun h => hid (of_decide_eq_true h)

theorem standing_updateMany {p : Installment → Bool} {f : Installment → Installment}
    (hf : ∀ i, (f i).installmentId = i.installmentId)
    (hkeep : ∀ i, (f i).financingContractId = i.financingContractId ∧ (f i).amount = i.amount)
    (hside : ∀ i, p i = true → ((f i).status = .voided ↔ i.status = .voided)) :
    standing contractId { db with installments := db.installments.updateMany p f hf } =
      standing contractId db := by
  refine Table.sumWhere_updateMany_of _ p f hf fun i _ hp => ?_
  have hstands : stands contractId (f i) = stands contractId i :=
    decide_eq_decide.mpr (by rw [(hkeep i).1, ne_eq, ne_eq, hside i hp])
  rw [Table.term, Table.term, hstands, (hkeep i).2]

theorem standing_append (contractId : String)
    (hrows : db'.installments.rows = db.installments.rows ++ rows)
    (hnew : ∀ i ∈ rows, i.financingContractId = id ∧ i.status = .pending) :
    standing contractId db' =
      standing contractId db + if id = contractId then (rows.map Installment.amount).sum else 0 := by
  rw [standing, Table.sumWhere_append hrows, standing]
  congr 1
  split
  · rename_i hid
    rw [List.filter_eq_self.mpr fun i hi => ?_]
    simp [stands, (hnew i hi).1, (hnew i hi).2, hid]
  · rename_i hid
    rw [List.filter_eq_nil_iff.mpr fun i hi => ?_]
    · rfl
    · simp [stands, (hnew i hi).1, hid]

theorem standing_eq (contractId : String) (db : Database) : standing contractId db =
    FinancingService.paidAmount contractId db + owed contractId db := by
  rw [standing, FinancingService.paidAmount, owed, Table.sumWhere_eq_sum_term,
    Table.sumWhere_eq_sum_term, Table.sumWhere_eq_sum_term, ← List.sum_map_add]
  refine congrArg List.sum (List.map_congr_left fun i _ => ?_)
  by_cases hi : i.financingContractId = contractId
  · cases hstatus : i.status <;>
      simp [Table.term, stands, owes, hi, hstatus, InstallmentStatus.settled]
  · simp [Table.term, stands, owes, hi]

theorem paidAmount_voidInstallments (id : String) :
    FinancingService.paidAmount contractId (FinancingService.voidInstallments id db) =
      FinancingService.paidAmount contractId db := by
  refine Table.sumWhere_updateMany_of _ _ FinancingService.voidedRow (fun _ => rfl) ?_
  intro i _ hp
  have hopen : i.status.voidable = true := (of_decide_eq_true hp).2
  have hunpaid : i.status ≠ .paid := by
    intro he
    rw [he] at hopen
    cases hopen
  simp [Table.term, FinancingService.voidedRow, hunpaid]

/-- Voiding leaves what is PAID. -/
theorem standing_voidInstallments (id : String) :
    standing contractId (FinancingService.voidInstallments id db) =
      if id = contractId then FinancingService.paidAmount contractId db
      else standing contractId db := by
  rw [standing_eq, paidAmount_voidInstallments, owed_voidInstallments]
  split
  · exact add_zero _
  · exact (standing_eq contractId db).symm

theorem standing_markInstallmentPaid {i : Installment} (now : DateTime)
    (hi : db.installments.find? i.installmentId = some i) :
    standing contractId (PaymentWorker.markInstallmentPaid i.installmentId now db) =
      standing contractId db +
        if i.financingContractId = contractId ∧ i.status = .voided then i.amount else 0 := by
  refine (Table.sumWhere_update hi (fun j => { j with status := .paid, paidAt := some now })
    (fun _ => rfl) (stands contractId) Installment.amount).trans ?_
  rw [standing]
  congr 1
  by_cases hown : i.financingContractId = contractId
  · by_cases hvoided : i.status = .voided
    · simp [Table.term, stands, hown, hvoided]
    · simp [Table.term, stands, hown, hvoided]
  · simp [Table.term, stands, hown]

theorem standing_of_unscheduled (h : rowTerms contractId db = []) : standing contractId db = 0 := by
  refine Table.sumWhere_eq_zero fun i hi => decide_eq_false fun hstands => ?_
  have hmem := mem_rowTerms.mpr ⟨i, hi, hstands.1, rfl⟩
  rw [h] at hmem
  exact absurd hmem List.not_mem_nil

theorem paidAmount_mem_kobo (h : ∀ t ∈ rowTerms contractId db, t.2 ∈ kobo ∧ 0 ≤ t.2) :
    FinancingService.paidAmount contractId db ∈ kobo ∧
      0 ≤ FinancingService.paidAmount contractId db := by
  have hrow : ∀ i ∈ db.installments.rows, decide (i.financingContractId = contractId ∧
      i.status = .paid) = true → i.amount ∈ kobo ∧ 0 ≤ i.amount := fun i hi hp =>
    h _ (mem_rowTerms.mpr ⟨i, hi, (of_decide_eq_true hp).1, rfl⟩)
  refine ⟨list_sum_mem fun a ha => ?_, Table.sumWhere_nonneg fun i hi hp =>
    (hrow i hi hp).2⟩
  obtain ⟨i, hi, rfl⟩ := List.mem_map.mp ha
  obtain ⟨hmem, hp⟩ := List.mem_filter.mp hi
  exact (hrow i hmem hp).1

theorem AmountsNonneg.of_terms (h : ∀ t ∈ rowTerms contractId db, t.2 ∈ kobo ∧ 0 ≤ t.2) :
    AmountsNonneg contractId db :=
  fun i hi hown => (h _ (mem_rowTerms.mpr ⟨i, hi, hown, rfl⟩)).2

theorem amount_mem_kobo {p : ScheduleParams} {schedule : List InstallmentCreateInput}
    (h : InstallmentService.generateInstallmentSchedule p = .ok schedule)
    {row : InstallmentCreateInput} (hrow : row ∈ schedule) : row.amount ∈ kobo ∧ 0 ≤ row.amount := by
  refine ⟨?_, InstallmentService.amount_nonneg h hrow⟩
  obtain ⟨i, -, rfl⟩ := (InstallmentService.mem_schedule h).mp hrow
  exact cents_mem_kobo _

end rows

namespace PaidOrOwed
variable {contractId : String} {s s' : WriteOffHistory}

/-- The contract keeps its total, and neither comes out of PENDING_ACTIVATION nor goes live. -/
def Keeps (contractId : String) (db db' : Database) : Prop :=
  ∀ c' ∈ db'.financingContracts.find? contractId, ∃ c ∈ db.financingContracts.find? contractId,
    c'.totalFinanced = c.totalFinanced ∧ (c'.status = c.status ∨
      c.status ≠ .pendingActivation ∧ c'.status ≠ .pendingActivation ∧
        (c'.status.live = true → c.status.live = true))

theorem Keeps.of_eq {db db' : Database} (h : db'.financingContracts.find? contractId =
    db.financingContracts.find? contractId) : Keeps contractId db db' :=
  fun c' hc' => ⟨c', h ▸ hc', rfl, .inl rfl⟩

def SameTerms (contractId : String) (db db' : Database) : Prop :=
  rowTerms contractId db' = rowTerms contractId db ∧ Keeps contractId db db'

/-- What is paid beside the total comes to both sides. -/
theorem add_stray (h : PaidOrOwed contractId s) {x : ℚ} (hx : x ∈ kobo ∧ 0 ≤ x)
    (hterms : rowTerms contractId s'.db = rowTerms contractId s.db)
    (hstanding : standing contractId s'.db = standing contractId s.db + x)
    (hstray : s'.stray = s.stray + x) (hscheduled : rowTerms contractId s.db = [] → x = 0)
    (hkeeps : Keeps contractId s.db s'.db) : PaidOrOwed contractId s' where
  unscheduled c' hc' hpending := by
    obtain ⟨c, hc, -, hstatus⟩ := hkeeps c' hc'
    rcases hstatus with hsame | ⟨-, hne, -⟩
    · obtain ⟨hnone, hzero⟩ := h.unscheduled c hc (hsame ▸ hpending)
      rw [hterms, hstray, hzero, hscheduled hnone]
      exact ⟨hnone, add_zero 0⟩
    · exact absurd hpending hne
  started c' hc' hne := by
    obtain ⟨c, hc, -, hstatus⟩ := hkeeps c' hc'
    rw [hterms]
    rcases hstatus with hsame | ⟨hbefore, -⟩
    · exact h.started c hc (hsame ▸ hne)
    · exact h.started c hc hbefore
  balance c' hc' hlive := by
    obtain ⟨c, hc, htotal, hstatus⟩ := hkeeps c' hc'
    have hbefore : c.status.live = true := by
      rcases hstatus with hsame | ⟨-, -, hlives⟩
      · rwa [← hsame]
      · exact hlives hlive
    rw [hstanding, h.balance c hc hbefore, hstray, htotal, add_assoc]
  amounts := hterms ▸ h.amounts
  stray := by
    rw [hstray]
    exact ⟨kobo.add_mem h.stray.1 hx.1, add_nonneg h.stray.2 hx.2⟩

theorem of_same (h : PaidOrOwed contractId s)
    (hterms : rowTerms contractId s'.db = rowTerms contractId s.db)
    (hstanding : standing contractId s'.db = standing contractId s.db)
    (hstray : s'.stray = s.stray) (hkeeps : Keeps contractId s.db s'.db) :
    PaidOrOwed contractId s' :=
  h.add_stray (x := 0) ⟨kobo.zero_mem, le_rfl⟩ hterms (hstanding.trans (add_zero _).symm)
    (hstray.trans (add_zero _).symm) (fun _ => rfl) hkeeps

end PaidOrOwed

section steps
variable {contractId : String} {s : WriteOffHistory}

section activation
variable {r : Review} {contract : FinancingContract} {m : KycMoment} {applicationId : String}
  {db' : Database}

/-- A contract that had rows would refuse the first of its schedule. -/
theorem PaidOrOwed.unscheduled_of_activates (hs : PaidOrOwed contract.contractId s)
    (hfound : KycService.contractOf applicationId s.db = some contract)
    (h : KycService.Activates r contract m (KycService.signAsAdmin r m s.db) db') :
    rowTerms contract.contractId s.db = [] ∧ s.stray = 0 := by
  obtain ⟨schedule, hschedule, -, hfree⟩ := h.installments
  obtain ⟨hmonths, -, -⟩ := InstallmentService.generateInstallmentSchedule_eq_ok.mp hschedule
  have hmonths : 0 < contract.approvedDurationMonths := hmonths
  have hfirst := (InstallmentService.mem_schedule hschedule).mpr ⟨0, by dsimp only; omega, rfl⟩
  have hcontract : s.db.financingContracts.find? contract.contractId = some contract :=
    Table.find?_of_mem (KycService.contractOf_eq_some hfound).1
  by_cases hpending : contract.status = .pendingActivation
  · exact hs.unscheduled contract hcontract hpending
  · obtain ⟨t, ht, hone⟩ := List.mem_map.mp (hs.started contract hcontract hpending)
    obtain ⟨i, hi, hown, rfl⟩ := mem_rowTerms.mp ht
    exact absurd hone (InstallmentService.sequenceTaken_eq_false_iff.mp (hfree _ hfirst) i hi hown)

/-- An activation schedules PENDING installments, for its contract only. -/
theorem rowTerms_activates (contractId : String)
    (h : KycService.Activates r contract m (KycService.signAsAdmin r m s.db) db') :
    ∃ schedule, KycService.scheduleOf contract m.now = .ok schedule ∧
      db'.installments.rows = s.db.installments.rows ++
        (schedule.map fun row => row.row (m.installmentId row.sequence)) ∧
      (∀ i ∈ schedule.map fun row => row.row (m.installmentId row.sequence),
        i.financingContractId = contract.contractId ∧ i.status = .pending) ∧
      rowTerms contractId db' = rowTerms contractId s.db ++ if contract.contractId = contractId then
        schedule.map (fun row => (row.sequence, row.amount)) else [] := by
  obtain ⟨schedule, hschedule, hrows, -⟩ := h.installments
  have hnew : ∀ i ∈ schedule.map fun row => row.row (m.installmentId row.sequence),
      i.financingContractId = contract.contractId ∧ i.status = .pending := by
    intro i hi
    obtain ⟨row, hrow, rfl⟩ := List.mem_map.mp hi
    exact scheduleRows_pending hschedule hrow
  refine ⟨schedule, hschedule, hrows, hnew, ?_⟩
  have hrows : db'.installments.rows = s.db.installments.rows ++ _ := hrows
  have hterms := rowTerms_append contractId hrows fun i hi => (hnew i hi).1
  rw [List.map_map] at hterms
  exact hterms

/-- The schedule of an activation adds up to its contract. -/
theorem PaidOrOwed.of_activates (hnone : rowTerms contract.contractId s.db = [])
    (hzero : s.stray = 0) (hfound : KycService.contractOf applicationId s.db = some contract)
    (h : KycService.Activates r contract m (KycService.signAsAdmin r m s.db) db') :
    PaidOrOwed contract.contractId ⟨db', s.stray⟩ := by
  obtain ⟨schedule, hschedule, hrows, hnew, hterms⟩ := rowTerms_activates contract.contractId h
  have hstanding := standing_append contract.contractId hrows hnew
  have hfind := find?_contract_activates contract.contractId h
  obtain ⟨hmonths, -, -⟩ := InstallmentService.generateInstallmentSchedule_eq_ok.mp hschedule
  have hmonths : 0 < contract.approvedDurationMonths := hmonths
  have hfirst := (InstallmentService.mem_schedule hschedule).mpr ⟨0, by dsimp only; omega, rfl⟩
  have hcontract : s.db.financingContracts.find? contract.contractId = some contract :=
    Table.find?_of_mem (KycService.contractOf_eq_some hfound).1
  rw [if_pos rfl] at hterms hstanding hfind
  have hafter : db'.financingContracts.find? contract.contractId =
      some (KycService.activatedContract m.userId m.now contract) :=
    hfind.trans (congrArg _ hcontract)
  have hsum : ((schedule.map fun row => row.row (m.installmentId row.sequence)).map
      Installment.amount).sum =
      (InstallmentService.totalInCents contract.totalFinanced : ℚ) / 100 := by
    rw [List.map_map]
    exact InstallmentService.sum_schedule hschedule
  rw [hnone, List.nil_append] at hterms
  rw [standing_of_unscheduled hnone, zero_add, hsum] at hstanding
  refine ⟨fun c hc hstatus => ?_, fun c hc _ => ?_, fun c hc _ => ?_, fun t ht => ?_, ?_⟩
  · obtain rfl := Option.some.inj (hafter.symm.trans hc)
    cases hstatus
  · rw [hterms, List.map_map]
    exact List.mem_map.mpr ⟨_, hfirst, rfl⟩
  · obtain rfl := Option.some.inj (hafter.symm.trans hc)
    change standing contract.contractId db' = _ + s.stray
    rw [hzero, add_zero, hstanding]
    rfl
  · rw [hterms] at ht
    obtain ⟨row, hrow, rfl⟩ := List.mem_map.mp ht
    exact amount_mem_kobo hschedule hrow
  · rw [hzero]
    exact ⟨kobo.zero_mem, le_rfl⟩

end activation

theorem PaidOrOwed.approve (hs : PaidOrOwed contractId s) (applicationId reviewerId : String)
    (m : KycMoment) :
    PaidOrOwed contractId
      (writeOffStep contractId s (.approveApplication applicationId reviewerId m)) := by
  rw [writeOffStep, ReceivableStep.apply]
  cases h : KycService.approveApplication applicationId reviewerId m s.db with
  | error err => exact hs
  | ok result =>
    rw [committed_ok]
    rcases KycService.approveApplication_cases h with
      ⟨-, r, contract, -, -, hfound, hactivates⟩ | ⟨-, hinstallments, hcontracts⟩
    · obtain ⟨schedule, hschedule, hrows, hnew, hterms⟩ := rowTerms_activates contractId hactivates
      have hstanding := standing_append contractId hrows hnew
      have hfind := find?_contract_activates contractId hactivates
      by_cases hid : contract.contractId = contractId
      · subst hid
        obtain ⟨hnone, hzero⟩ := hs.unscheduled_of_activates hfound hactivates
        exact .of_activates hnone hzero hfound hactivates
      · rw [if_neg hid, List.append_nil] at hterms
        rw [if_neg hid, add_zero] at hstanding
        rw [if_neg fun he => hid he.symm] at hfind
        exact hs.of_same hterms hstanding rfl (.of_eq hfind)
    · exact hs.of_same (by rw [rowTerms, hinstallments, rowTerms])
        (by rw [standing, hinstallments, standing]) rfl (.of_eq (by rw [hcontracts]))

namespace PaidOrOwed

/-- A payment completes its contract at most, which then has been activated. -/
theorem sameTerms_payment {db : Database}
    (hunscheduled : ∀ c ∈ db.financingContracts.find? contractId, c.status = .pendingActivation →
      rowTerms contractId db = []) (verifyPaystack : String → Except String Verification)
    (job : PaymentJobData) (paymentId commissionId : String) (now : DateTime) :
    SameTerms contractId db
      ((ReceivableStep.processPayment verifyPaystack job paymentId commissionId now).apply db) := by
  rcases processPayment_cases verifyPaystack job paymentId commissionId now db with
    ⟨-, intents, hdb⟩ | ⟨i, -, hload, -, hcommits⟩
  · rw [hdb]
    exact ⟨rfl, .of_eq rfl⟩
  · have hcontract := find?_contract_commits contractId hcommits
    rw [ContractStep.find?_contractsAfter] at hcontract
    obtain ⟨payments, commissions, ledger, intents, hdb⟩ := hcommits.frame
    refine ⟨?_, fun c' hc' => ?_⟩
    · rw [hdb]
      exact rowTerms_updateMany (f := fun j => { j with status := .paid, paidAt := some now })
        (fun _ => rfl) fun _ => ⟨rfl, rfl, rfl⟩
    · rw [hcontract] at hc'
      split at hc'
      · rename_i hcompletes
        obtain ⟨c, hc, rfl⟩ := Option.map_eq_some_iff.mp hc'
        refine ⟨c, hc, rfl, .inr ⟨fun hpending => ?_, FinancingStatus.noConfusion, fun hlive => ?_⟩⟩
        · have hmem := mem_rowTerms.mpr ⟨_, Table.mem_of_find? (find?_of_loadInstallment hload),
            (contractId_of_loadInstallment hload).symm.trans hcompletes.2.symm, rfl⟩
          rw [hunscheduled c hc hpending] at hmem
          exact absurd hmem List.not_mem_nil
        · cases hlive
      · exact ⟨c', hc', rfl, .inl rfl⟩

theorem sameTerms_transition (contractId : String) (source target : InstallmentStatus)
    (dueBy : DateTime → Bool) (db : Database) :
    SameTerms contractId db (PaymentReminderWorker.transition source target dueBy db) :=
  ⟨rowTerms_updateMany (f := fun i => { i with status := target }) (fun _ => rfl)
    fun _ => ⟨rfl, rfl, rfl⟩, .of_eq rfl⟩

theorem sameTerms_markDefaulted (contractId id : String) (late : Installment → Bool)
    (db : Database) : SameTerms contractId db (InstalFlow.markDefaulted id late db) := by
  rw [InstalFlow.markDefaulted]
  split
  · rename_i hmay
    refine ⟨rowTerms_updateMany (f := defaultedRow) (fun _ => rfl) fun _ => ⟨rfl, rfl, rfl⟩,
      fun c' hc' => ?_⟩
    have hfind := Table.find?_update db.financingContracts id contractId defaultedContract
      fun _ => rfl
    have hc' := hfind.symm.trans hc'
    split at hc'
    · rename_i hid
      obtain ⟨c, hc, rfl⟩ := Option.map_eq_some_iff.mp hc'
      rw [← hid, hc, Option.any_some] at hmay
      refine ⟨c, hc, rfl, .inr ⟨fun hpending => ?_, FinancingStatus.noConfusion, fun _ => ?_⟩⟩
      · rw [hpending] at hmay
        cases hmay
      · cases hstatus : c.status <;> simp_all [FinancingStatus.mayDefault, FinancingStatus.live]
    · exact ⟨c', hc', rfl, .inl rfl⟩
  · exact ⟨rfl, .of_eq rfl⟩

end PaidOrOwed

theorem PaidOrOwed.processPayment (hs : PaidOrOwed contractId s)
    (verifyPaystack : String → Except String Verification) (job : PaymentJobData)
    (paymentId commissionId : String) (now : DateTime) : PaidOrOwed contractId
      (writeOffStep contractId s
        (.processPayment verifyPaystack job paymentId commissionId now)) := by
  obtain ⟨hterms, hkeeps⟩ := sameTerms_payment (fun c hc hpending => (hs.unscheduled c hc hpending).1)
    verifyPaystack job paymentId commissionId now
  rcases processPayment_cases verifyPaystack job paymentId commissionId now s.db with
    ⟨hnone, intents, hdb⟩ | ⟨i, hsome, hload, -, hcommits⟩
  · have hstray : (writeOffStep contractId s
        (.processPayment verifyPaystack job paymentId commissionId now)).stray = s.stray := by
      simp only [writeOffStep, WriteOffHistory.strayAfter, hnone]
      exact add_zero _
    refine hs.of_same hterms ?_ hstray hkeeps
    rw [writeOffStep, hdb]
    rfl
  · have hrow := find?_of_loadInstallment hload
    have hid := contractId_of_loadInstallment hload
    have hstray : (writeOffStep contractId s
        (.processPayment verifyPaystack job paymentId commissionId now)).stray = s.stray +
          if i.installment.financingContractId = contractId ∧ i.installment.status = .voided then
            i.installment.amount else 0 := by
      simp only [writeOffStep, WriteOffHistory.strayAfter, hsome, Option.filter_some, hid]
      split <;> simp_all
    obtain ⟨payments, commissions, ledger, intents, hdb⟩ := hcommits.frame
    have hown (h : i.installment.financingContractId = contractId) :
        (i.installment.sequence, i.installment.amount) ∈ rowTerms contractId s.db :=
      mem_rowTerms.mpr ⟨_, Table.mem_of_find? hrow, h, rfl⟩
    refine hs.add_stray ?_ hterms ?_ hstray (fun hnone => ?_) hkeeps
    · split
      · rename_i h
        exact hs.amounts _ (hown h.1)
      · exact ⟨kobo.zero_mem, le_rfl⟩
    · rw [writeOffStep, hdb]
      exact standing_markInstallmentPaid now hrow
    · refine if_neg fun h => ?_
      have hmem := hown h.1
      rw [hnone] at hmem
      exact absurd hmem List.not_mem_nil

theorem PaidOrOwed.transition (hs : PaidOrOwed contractId s) (source target : InstallmentStatus)
    (hsource : source ≠ .voided) (htarget : target ≠ .voided) (dueBy : DateTime → Bool)
    {e : ReceivableStep} (hstray : s.strayAfter contractId e = s.stray)
    (happly : e.apply s.db = PaymentReminderWorker.transition source target dueBy s.db) :
    PaidOrOwed contractId (writeOffStep contractId s e) := by
  obtain ⟨hterms, hkeeps⟩ := sameTerms_transition contractId source target dueBy s.db
  rw [← happly] at hterms hkeeps
  refine hs.of_same hterms ?_ hstray hkeeps
  rw [writeOffStep, happly]
  refine standing_updateMany (f := fun i => { i with status := target }) (fun _ => rfl)
    (fun _ => ⟨rfl, rfl⟩) fun i hi => iff_of_false htarget fun he => ?_
  exact hsource ((of_decide_eq_true hi).1.symm.trans he)

theorem PaidOrOwed.markDefaulted (hs : PaidOrOwed contractId s) (id : String)
    (late : Installment → Bool) :
    PaidOrOwed contractId (writeOffStep contractId s (.operation (.markDefaulted id late))) := by
  obtain ⟨hterms, hkeeps⟩ := sameTerms_markDefaulted contractId id late s.db
  refine hs.of_same hterms ?_ rfl hkeeps
  change standing contractId (InstalFlow.markDefaulted id late s.db) = standing contractId s.db
  rw [InstalFlow.markDefaulted]
  split
  · refine standing_updateMany (f := defaultedRow) (fun _ => rfl) (fun _ => ⟨rfl, rfl⟩)
      fun i hi => iff_of_false InstallmentStatus.noConfusion fun he => ?_
    have hvoidable := (of_decide_eq_true hi).2.1
    rw [he] at hvoidable
    cases hvoidable
  · rfl

section closes
variable {id : String} {f : FinancingContract → FinancingContract} {rows : List Installment}
  {posting : LedgerTransaction} {db db' : Database}

theorem rowTerms_closes (contractId : String)
    (h : FinancingService.Closes id f rows posting db db')
    (hnew : ∀ i ∈ rows, i.financingContractId = id) : rowTerms contractId db' =
      rowTerms contractId db ++ if id = contractId then rows.map fun i => (i.sequence, i.amount)
        else [] := by
  rw [rowTerms_append contractId h.installments hnew]
  congr 1
  exact rowTerms_updateMany (f := FinancingService.voidedRow) (fun _ => rfl) fun _ => ⟨rfl, rfl, rfl⟩

theorem standing_closes (contractId : String)
    (h : FinancingService.Closes id f rows posting db db')
    (hnew : ∀ i ∈ rows, i.financingContractId = id ∧ i.status = .pending) :
    standing contractId db' = if id = contractId then
      FinancingService.paidAmount contractId db + (rows.map Installment.amount).sum
      else standing contractId db := by
  rw [standing_append contractId h.installments hnew, standing_voidInstallments]
  split
  · rfl
  · exact add_zero _

theorem PaidOrOwed.sameTerms_closes_other (hid : id ≠ contractId)
    (h : FinancingService.Closes id f rows posting db db')
    (hnew : ∀ i ∈ rows, i.financingContractId = id) : SameTerms contractId db db' := by
  refine ⟨?_, .of_eq ?_⟩
  · rw [rowTerms_closes _ h hnew, if_neg hid, List.append_nil]
  · rw [find?_contract_closes _ h, if_neg fun he => hid he.symm]

/-- Closing another contract leaves this one as it was. -/
theorem PaidOrOwed.of_closes_other (hs : PaidOrOwed contractId s) {e : ReceivableStep}
    (hid : id ≠ contractId) (h : FinancingService.Closes id f rows posting s.db (e.apply s.db))
    (hnew : ∀ i ∈ rows, i.financingContractId = id ∧ i.status = .pending)
    (hstray : s.strayAfter contractId e = s.stray) :
    PaidOrOwed contractId (writeOffStep contractId s e) := by
  obtain ⟨hterms, hkeeps⟩ := sameTerms_closes_other hid h fun i hi => (hnew i hi).1
  refine hs.of_same hterms ?_ hstray hkeeps
  rw [writeOffStep, standing_closes _ h hnew, if_neg hid]

end closes

/-- No contract is deleted. -/
theorem ReceivableStep.isSome_apply {db : Database} (e : ReceivableStep)
    (h : (db.financingContracts.find? contractId).isSome = true) :
    ((e.apply db).financingContracts.find? contractId).isSome = true := by
  have hcloses {id f rows posting db'} (hc : FinancingService.Closes id f rows posting db db') :
      (db'.financingContracts.find? contractId).isSome = true := by
    rw [find?_contract_closes contractId hc]
    split
    · rwa [Option.isSome_map]
    · exact h
  cases e with
  | approveApplication applicationId reviewerId m =>
    refine committed_rule (P := fun db' => (db'.financingContracts.find? contractId).isSome = true)
      h fun result hcall => ?_
    rcases KycService.approveApplication_cases hcall with
      ⟨-, r, contract, -, -, -, hactivates⟩ | ⟨-, -, hcontracts⟩
    · rw [find?_contract_activates contractId hactivates]
      split
      · rwa [Option.isSome_map]
      · exact h
    · rwa [hcontracts]
  | processPayment verifyPaystack job paymentId commissionId now =>
    rcases processPayment_cases verifyPaystack job paymentId commissionId now db with
      ⟨-, intents, hdb⟩ | ⟨i, -, -, -, hcommits⟩
    · rwa [hdb]
    · rw [find?_contract_commits contractId hcommits, ContractStep.find?_contractsAfter]
      split
      · rwa [Option.isSome_map]
      · exact h
  | operation op =>
    cases op with
    | pendingToDue now => exact h
    | dueToOverdue now => exact h
    | markDefaulted id late =>
      rw [ReceivableStep.apply, ContractOperation.apply, InstalFlow.markDefaulted]
      split
      · have hfind := Table.find?_update db.financingContracts id contractId defaultedContract
          fun _ => rfl
        refine (congrArg Option.isSome hfind).trans ?_
        split
        · rwa [Option.isSome_map]
        · exact h
      · exact h
    | restructure offset id adminUserId newTerms installmentId now =>
      refine committed_rule (P := fun db' => (db'.financingContracts.find? contractId).isSome = true)
        h fun result hcall => ?_
      obtain ⟨terms, o, schedule, -, hr⟩ := FinancingService.restructureContract_eq_ok hcall
      exact hcloses hr.closes
    | writeOff id companyUserId reason now =>
      refine committed_rule (P := fun db' => (db'.financingContracts.find? contractId).isSome = true)
        h fun result hcall => ?_
      obtain ⟨o, -, hc⟩ := FinancingService.writeOffContract_eq_ok hcall
      exact hcloses hc

theorem PaidOrOwed.sameTerms_writeOff {id callerId reason : String} {now : DateTime} {db : Database}
    {result : WrittenOffContract × Database}
    (h : FinancingService.writeOffContract id callerId reason now db = .ok result) :
    SameTerms contractId db result.2 := by
  obtain ⟨o, ho, hcloses⟩ := FinancingService.writeOffContract_eq_ok h
  by_cases hid : id = contractId
  · subst hid
    obtain ⟨hcontract, hopen⟩ := FinancingService.findForWriteOff_eq_ok ho
    have hafter := find?_contract_closes id hcloses
    rw [if_pos rfl, hcontract, Option.map_some] at hafter
    refine ⟨?_, fun c hc => ?_⟩
    · rw [rowTerms_closes id hcloses (by simp), if_pos rfl]
      exact List.append_nil _
    · obtain rfl := Option.some.inj (hafter.symm.trans hc)
      refine ⟨o.contract, hcontract, rfl, .inr ⟨fun hpending => ?_, FinancingStatus.noConfusion,
        fun hlive => ?_⟩⟩
      · rw [hpending] at hopen
        rcases hopen with hopen | hopen <;> cases hopen
      · cases hlive
  · exact sameTerms_closes_other hid hcloses (by simp)

theorem PaidOrOwed.restructure (hs : PaidOrOwed contractId s) (offset : ℕ) (id adminUserId : String)
    (newTerms : RestructureInput) (installmentId : ℕ → String) (now : DateTime) :
    PaidOrOwed contractId (writeOffStep contractId s
      (.operation (.restructure offset id adminUserId newTerms installmentId now))) := by
  cases h : FinancingService.restructureContract offset id adminUserId newTerms installmentId now
      s.db with
  | error err =>
    have hsame : writeOffStep contractId s
        (.operation (.restructure offset id adminUserId newTerms installmentId now)) = s := by
      simp [writeOffStep, WriteOffHistory.strayAfter, ReceivableStep.apply,
        ContractOperation.apply, h, Except.isOk, Except.toBool]
    rw [hsame]
    exact hs
  | ok result =>
    obtain ⟨accepted, o, schedule, -, hr⟩ := FinancingService.restructureContract_eq_ok h
    have happly : (ReceivableStep.operation
        (.restructure offset id adminUserId newTerms installmentId now)).apply s.db = result.2 := by
      rw [ReceivableStep.apply, ContractOperation.apply, h, committed_ok]
    by_cases hid : id = contractId
    · subst hid
      obtain ⟨hcontract, hdefaulted⟩ := FinancingService.findForRestructure_eq_ok hr.found
      have hstray : (writeOffStep id s (.operation
          (.restructure offset id adminUserId newTerms installmentId now))).stray =
          FinancingService.paidAmount id s.db := by
        simp [writeOffStep, WriteOffHistory.strayAfter, h, Except.isOk, Except.toBool]
      have hterms := rowTerms_closes id hr.closes
        fun i hi => (restructured_rows hr hi).1.1
      have hstanding := standing_closes id hr.closes
        fun i hi => (restructured_rows hr hi).1
      have hafter := find?_contract_closes id hr.closes
      rw [if_pos rfl] at hterms hstanding hafter
      rw [hcontract, Option.map_some] at hafter
      rw [sum_numberedAfter, InstallmentService.sum_schedule hr.scheduled] at hstanding
      rw [writeOffStep, happly] at hstray ⊢
      refine ⟨fun c hc hpending => ?_, fun c hc _ => ?_, fun c hc _ => ?_, fun t ht => ?_, ?_⟩
      · obtain rfl := Option.some.inj (hafter.symm.trans hc)
        cases hpending
      · have hfirst := hs.started o.contract hcontract (by rw [hdefaulted]; decide)
        rw [hterms, List.map_append]
        exact List.mem_append_left _ hfirst
      · obtain rfl := Option.some.inj (hafter.symm.trans hc)
        rw [hstanding, hstray, add_comm]
        rfl
      · rw [hterms, List.mem_append] at ht
        rcases ht with hold | hnew
        · exact hs.amounts t hold
        · obtain ⟨i, hi, rfl⟩ := List.mem_map.mp hnew
          obtain ⟨row, hrow, rfl⟩ := List.mem_map.mp hi
          obtain ⟨before, hbefore, rfl⟩ := List.mem_map.mp hrow
          exact amount_mem_kobo hr.scheduled hbefore
      · rw [hstray]
        exact paidAmount_mem_kobo hs.amounts
    · refine hs.of_closes_other hid (happly ▸ hr.closes)
        (fun i hi => (restructured_rows hr hi).1) ?_
      simp [WriteOffHistory.strayAfter, hid]

theorem PaidOrOwed.writeOff (hs : PaidOrOwed contractId s) (id companyUserId reason : String)
    (now : DateTime) : PaidOrOwed contractId
      (writeOffStep contractId s (.operation (.writeOff id companyUserId reason now))) := by
  cases h : FinancingService.writeOffContract id companyUserId reason now s.db with
  | error err =>
    have hsame : writeOffStep contractId s
        (.operation (.writeOff id companyUserId reason now)) = s := by
      simp [writeOffStep, WriteOffHistory.strayAfter, ReceivableStep.apply,
        ContractOperation.apply, h]
    rw [hsame]
    exact hs
  | ok result =>
    obtain ⟨o, ho, hcloses⟩ := FinancingService.writeOffContract_eq_ok h
    have happly : (ReceivableStep.operation (.writeOff id companyUserId reason now)).apply s.db =
        result.2 := by
      rw [ReceivableStep.apply, ContractOperation.apply, h, committed_ok]
    by_cases hid : id = contractId
    · subst hid
      obtain ⟨hcontract, hopen⟩ := FinancingService.findForWriteOff_eq_ok ho
      have hterms := rowTerms_closes id hcloses (by simp)
      have hafter := find?_contract_closes id hcloses
      rw [if_pos rfl, List.map_nil, List.append_nil] at hterms
      rw [if_pos rfl, hcontract, Option.map_some] at hafter
      rw [writeOffStep, happly]
      refine ⟨fun c hc hpending => ?_, fun c hc _ => ?_, fun c hc hlive => ?_, hterms ▸ hs.amounts,
        hs.stray⟩
      · obtain rfl := Option.some.inj (hafter.symm.trans hc)
        cases hpending
      · rw [hterms]
        refine hs.started o.contract hcontract fun hpending => ?_
        rw [hpending] at hopen
        rcases hopen with hopen | hopen <;> cases hopen
      · obtain rfl := Option.some.inj (hafter.symm.trans hc)
        cases hlive
    · exact hs.of_closes_other hid (happly ▸ hcloses) (by simp) rfl

theorem paidOrOwed_step (hs : PaidOrOwed contractId s) (e : ReceivableStep) :
    PaidOrOwed contractId (writeOffStep contractId s e) := by
  cases e with
  | approveApplication applicationId reviewerId m => exact hs.approve applicationId reviewerId m
  | processPayment verifyPaystack job paymentId commissionId now =>
    exact hs.processPayment verifyPaystack job paymentId commissionId now
  | operation op =>
    cases op with
    | pendingToDue now =>
      exact hs.transition .pending .due (by decide) (by decide)
        (fun dueDate => dueDate ≤ PaymentReminderWorker.todayStart now) rfl rfl
    | dueToOverdue now =>
      exact hs.transition .due .overdue (by decide) (by decide)
        (fun dueDate =>
          dueDate < PaymentReminderWorker.todayStart now - 3 * PaymentReminderWorker.dayMs) rfl rfl
    | markDefaulted id late => exact hs.markDefaulted id late
    | restructure offset id adminUserId newTerms installmentId now =>
      exact hs.restructure offset id adminUserId newTerms installmentId now
    | writeOff id companyUserId reason now => exact hs.writeOff id companyUserId reason now

end steps

/-- A contract that is not activated yet -/
theorem paidOrOwed_new {contractId : String} {db : Database}
    (hnew : ∀ i ∈ db.installments.rows, i.financingContractId ≠ contractId)
    (hpending : ∀ c ∈ db.financingContracts.find? contractId, c.status = .pendingActivation) :
    PaidOrOwed contractId ⟨db, 0⟩ := by
  have hnone : rowTerms contractId db = [] := by
    refine List.eq_nil_iff_forall_not_mem.mpr fun t ht => ?_
    obtain ⟨i, hi, hown, -⟩ := mem_rowTerms.mp ht
    exact hnew i hi hown
  refine ⟨fun c _ _ => ⟨hnone, rfl⟩, fun c hc hne => absurd (hpending c hc) hne,
    fun c hc hlive => ?_, fun t ht => ?_, kobo.zero_mem, le_rfl⟩
  · rw [hpending c hc] at hlive
    cases hlive
  · rw [hnone] at ht
    exact absurd ht List.not_mem_nil

section writeOff
variable {contractId callerId reason : String} {now : DateTime}
  {result : WrittenOffContract × Database}

/-- The installments that a write-off changes are those that are owed. -/
theorem newlyVoided_closes {f : FinancingContract → FinancingContract}
    {posting : LedgerTransaction} {db db' : Database}
    (h : FinancingService.Closes contractId f [] posting db db') :
    newlyVoided db db' = owed contractId db := by
  rw [newlyVoided, owed, Table.sumWhere, Table.sumWhere]
  refine congrArg (fun rows => (rows.map Installment.amount).sum)
    (List.filter_congr fun i hi => decide_eq_decide.mpr ?_)
  rw [FinancingService.find?_closes h hi, Option.any_some, voidable_eq]
  cases hstatus : i.status <;> by_cases hown : i.financingContractId = contractId <;>
    simp [hstatus, hown, InstallmentStatus.settled, FinancingService.voidedRow]

theorem changeOf_writeOffPosting (o : OwnedContract) (reason : String) (now : DateTime)
    (db : Database) :
    LedgerService.changeOf "BAD_DEBT_EXPENSE" .expense
        (FinancingService.writeOffPosting o reason now db).entries =
      FinancingService.remainingAmount o.contract db := by
  simp [LedgerService.changeOf, FinancingService.writeOffPosting, LedgerService.balanceChange]

/-- A write-off removes what is owed exactly when the total is what is PAID and owed. -/
theorem removesOwed_iff {db : Database}
    (h : FinancingService.writeOffContract contractId callerId reason now db = .ok result)
    (hnonneg : 0 ≤ owed contractId db) :
    RemovesOwed db result ↔ ∀ c ∈ db.financingContracts.find? contractId,
      c.totalFinanced = standing contractId db := by
  obtain ⟨o, ho, hcloses⟩ := FinancingService.writeOffContract_eq_ok h
  obtain ⟨hcontract, -⟩ := FinancingService.findForWriteOff_eq_ok ho
  have hid : o.contract.contractId = contractId := Table.find?_key hcontract
  have houtstanding : result.1.outstandingAmount =
      FinancingService.remainingAmount o.contract db := by
    obtain ⟨validated, -, hcall⟩ := bind_eq_ok.mp h
    obtain ⟨found, hfound, hcall⟩ := bind_eq_ok.mp hcall
    obtain ⟨_, -, hcall⟩ := bind_eq_ok.mp hcall
    obtain rfl := Except.ok.inj (hfound.symm.trans ho)
    cases hcall
    rfl
  have hremaining : FinancingService.remainingAmount o.contract db = owed contractId db ↔
      o.contract.totalFinanced = standing contractId db := by
    rw [FinancingService.remainingAmount, hid, standing_eq, sub_eq_iff_eq_add, add_comm]
  have hvoided := newlyVoided_closes hcloses
  rw [hcontract]
  simp only [Option.mem_def, Option.some.injEq, forall_eq']
  rw [← hremaining]
  constructor
  · intro hremoves
    rw [← houtstanding, hremoves.voided, hvoided]
  · intro hsame
    refine ⟨by rw [houtstanding, hsame, hvoided], by rw [houtstanding, hsame]; exact hnonneg,
      _, hcloses.ledger, ?_, ?_⟩
    · rw [changeOf_writeOffPosting, houtstanding]
    · rw [houtstanding]
      exact receivable_writeOffPosting o reason now db

end writeOff

/-- After any history from a new contract on, a write-off removes what is owed exactly when
the total is of whole kobo and nothing was paid beside it. -/
theorem writeOff_removes_owed_iff (contractId : String) (db : Database)
    (hnew : ∀ i ∈ db.installments.rows, i.financingContractId ≠ contractId)
    (hpending : ∀ c ∈ db.financingContracts.find? contractId, c.status = .pendingActivation)
    (steps : List ReceivableStep) (callerId reason : String) (now : DateTime)
    (result : WrittenOffContract × Database)
    (h : FinancingService.writeOffContract contractId callerId reason now
      (run (writeOffStep contractId) ⟨db, 0⟩ steps).db = .ok result) :
    RemovesOwed (run (writeOffStep contractId) ⟨db, 0⟩ steps).db result ↔
      (∀ c ∈ (run (writeOffStep contractId) ⟨db, 0⟩ steps).db.financingContracts.find? contractId,
        c.totalFinanced ∈ kobo) ∧
      (run (writeOffStep contractId) ⟨db, 0⟩ steps).stray = 0 := by
  have hs : PaidOrOwed contractId (run (writeOffStep contractId) ⟨db, 0⟩ steps) :=
    run_invariant (I := PaidOrOwed contractId) (fun _ e hs => paidOrOwed_step hs e)
      (paidOrOwed_new hnew hpending) steps
  generalize run (writeOffStep contractId) ⟨db, 0⟩ steps = s at h hs ⊢
  obtain ⟨o, ho, -⟩ := FinancingService.writeOffContract_eq_ok h
  obtain ⟨hcontract, hopen⟩ := FinancingService.findForWriteOff_eq_ok ho
  have hlive : o.contract.status.live = true := by
    rcases hopen with hopen | hopen <;> rw [hopen] <;> rfl
  have hbalance := hs.balance o.contract hcontract hlive
  have howed : 0 ≤ owed contractId s.db := (AmountsNonneg.of_terms hs.amounts).owed_nonneg
  rw [removesOwed_iff h howed, hcontract]
  simp only [Option.mem_def, Option.some.injEq, forall_eq']
  constructor
  · intro htotal
    have hkobo : o.contract.totalFinanced ∈ kobo := by
      rw [htotal, hbalance]
      exact kobo.add_mem (cents_mem_kobo _) hs.stray.1
    rw [hbalance, InstallmentService.roundedTotal_eq_iff.mpr hkobo] at htotal
    exact ⟨hkobo, left_eq_add.mp htotal⟩
  · intro hcondition
    rw [hbalance, InstallmentService.roundedTotal_eq_iff.mpr hcondition.1, hcondition.2, add_zero]

/-- Activated and paid for once, the new contract defaults. -/
def halfPaidNew : List ReceivableStep :=
  [activateNew, chargeOf "new1" "r₁" "p₁", .operation (.markDefaulted "new" fun _ => true)]

/-- Its other half is written off. -/
theorem half_written_off :
    (∃ result, FinancingService.writeOffContract "new" "chief" "left town" 5
      (run (writeOffStep "new") ⟨twoContracts, 0⟩ halfPaidNew).db = .ok result) ∧
    ∀ result, FinancingService.writeOffContract "new" "chief" "left town" 5
      (run (writeOffStep "new") ⟨twoContracts, 0⟩ halfPaidNew).db = .ok result →
      RemovesOwed (run (writeOffStep "new") ⟨twoContracts, 0⟩ halfPaidNew).db result := by
  refine ⟨isOk_iff.mp (by decide +kernel), fun result h => ?_⟩
  exact (writeOff_removes_owed_iff "new" twoContracts (by decide) (by decide) halfPaidNew "chief"
    "left town" 5 result h).mpr ⟨by decide +kernel, by decide +kernel⟩

/-- The new contract at 100.01 and 33 percent -/
def oddContract : Database :=
  { twoContracts with
    financingContracts := ⟨[{ contractId := "new", userId := none, productId := "oven"
                              kycApplicationId := "app", approvedDurationMonths := 2
                              totalFinanced := 133.0133, status := .pendingActivation }],
      by decide⟩ }

/-- Of a contract that never paid, 0.0033 more is written off than is owed. -/
theorem fraction_written_off : ∃ result,
    FinancingService.writeOffContract "new" "chief" "left town" 5
      (run (writeOffStep "new") ⟨oddContract, 0⟩
        [activateNew, .operation (.markDefaulted "new" fun _ => true)]).db = .ok result ∧
    ¬ RemovesOwed (run (writeOffStep "new") ⟨oddContract, 0⟩
        [activateNew, .operation (.markDefaulted "new" fun _ => true)]).db result := by
  obtain ⟨result, h⟩ := isOk_iff.mp (show (FinancingService.writeOffContract "new" "chief"
    "left town" 5 (run (writeOffStep "new") ⟨oddContract, 0⟩
      [activateNew, .operation (.markDefaulted "new" fun _ => true)]).db).isOk = true by
    decide +kernel)
  have howed : owed "new" (run (writeOffStep "new") ⟨oddContract, 0⟩
      [activateNew, .operation (.markDefaulted "new" fun _ => true)]).db = 133.01 := by
    decide +kernel
  refine ⟨result, h, fun hremoves => ?_⟩
  have htotal := (removesOwed_iff h (by rw [howed]; norm_num)).mp hremoves
  exact absurd htotal (by decide +kernel)

end InstalFlow
