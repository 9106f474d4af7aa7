import InstalFlow.InstallmentQueries
import InstalFlow.WriteOffs

/-!
# The installment to pay next

The first installment of a contract that is not PAID is the one to pay. A VOIDED installment
is not PAID either, so one that a write-off leaves is offered for payment once its window opens,
and nothing behind it is.
-/

namespace InstalFlow
open Relational Transition InstallmentService

/-- Whatever the date, one installment of a contract may be paid at most: the first of those that
are neither PAID nor VOIDED, and as soon as its window is open. -/
structure OldestPayable (contractId : String) (db : Database) : Prop where
  one : ∀ now, ∀ i ∈ contractInstallments contractId db, ∀ j ∈ contractInstallments contractId db,
    (eligibility i now db).canPay = true → (eligibility j now db).canPay = true → i = j
  oldest : ∀ now, ∀ i ∈ contractInstallments contractId db, (eligibility i now db).canPay = true →
    i.status.settled = false ∧ ∀ j ∈ contractInstallments contractId db,
      j.status.settled = false → i.sequence ≤ j.sequence
  payable : ∀ now, ∀ i ∈ contractInstallments contractId db, i.status.settled = false →
    (∀ j ∈ contractInstallments contractId db, j.status.settled = false →
      i.sequence ≤ j.sequence) →
    diffInCalendarDays i.dueDate now ≤ paymentWindowDays → (eligibility i now db).canPay = true

section state
variable {contractId : String} {db : Database} {i : Installment} {now : DateTime}

theorem mem_contractInstallments : i ∈ contractInstallments contractId db ↔
    i ∈ db.installments.rows ∧ i.financingContractId = contractId := by
  rw [contractInstallments, List.mem_filter, decide_eq_true_iff]

theorem InstallmentStatus.settled_iff {s : InstallmentStatus} :
    s.settled = false ↔ s ≠ .paid ∧ s ≠ .voided := by
  cases s <;> decide

theorem canPay_iff_earliest (hi : i ∈ contractInstallments contractId db) :
    (eligibility i now db).canPay = true ↔
      earliestBy Installment.sequence (unpaidOf contractId db) = some i ∧
        diffInCalendarDays i.dueDate now ≤ paymentWindowDays := by
  obtain ⟨hrow, rfl⟩ := mem_contractInstallments.mp hi
  have hnext : (eligibility i now db).isNextInstallment = true ↔ _ :=
    isNextInstallment_iff_earliest hrow
  rw [← hnext, eligibility_eq, canPay_iff, isNextInstallment_iff, and_assoc]

/-- What decides is the status of the first installment that is not PAID. -/
theorem oldestPayable_iff (h : DistinctSequences db) : OldestPayable contractId db ↔
    ∀ first ∈ earliestBy Installment.sequence (unpaidOf contractId db), first.status ≠ .voided := by
  have hrow {first : Installment}
      (hfirst : earliestBy Installment.sequence (unpaidOf contractId db) = some first) :
      first ∈ contractInstallments contractId db ∧ first.status ≠ .paid := by
    obtain ⟨hmem, hcontract, hunpaid⟩ := mem_unpaidOf.mp (mem_of_earliestBy hfirst)
    exact ⟨mem_contractInstallments.mpr ⟨hmem, hcontract⟩, hunpaid⟩
  have hunpaid {j : Installment} (hj : j ∈ contractInstallments contractId db)
      (hsettled : j.status.settled = false) : j ∈ unpaidOf contractId db := by
    obtain ⟨hmem, hcontract⟩ := mem_contractInstallments.mp hj
    exact mem_unpaidOf.mpr ⟨hmem, hcontract, (InstallmentStatus.settled_iff.mp hsettled).1⟩
  constructor
  · intro hp first hfirst
    have hmem := (hrow hfirst).1
    have hwindow : diffInCalendarDays first.dueDate first.dueDate ≤ paymentWindowDays := by
      rw [diffInCalendarDays, sub_self]
      decide
    have hpay := (canPay_iff_earliest hmem).mpr ⟨hfirst, hwindow⟩
    exact (InstallmentStatus.settled_iff.mp (hp.oldest _ first hmem hpay).1).2
  · intro hvoided
    refine ⟨fun now i hi j hj hpay hpay' => ?_, fun now i hi hpay => ?_,
      fun now i hi hsettled holdest hwindow => ?_⟩
    · have hfirst := ((canPay_iff_earliest hi).mp hpay).1
      exact Option.some.inj (hfirst.symm.trans ((canPay_iff_earliest hj).mp hpay').1)
    · have hfirst := ((canPay_iff_earliest hi).mp hpay).1
      refine ⟨InstallmentStatus.settled_iff.mpr ⟨(hrow hfirst).2, hvoided i hfirst⟩, ?_⟩
      exact fun j hj hsettled => earliestBy_le hfirst (hunpaid hj hsettled)
    · refine (canPay_iff_earliest hi).mpr ⟨?_, hwindow⟩
      cases hfirst : earliestBy Installment.sequence (unpaidOf contractId db) with
      | none =>
        have hmem := hunpaid hi hsettled
        rw [earliestBy_eq_none.mp hfirst] at hmem
        cases hmem
      | some first =>
        obtain ⟨hmem, hnotPaid⟩ := hrow hfirst
        have hopen := InstallmentStatus.settled_iff.mpr ⟨hnotPaid, hvoided first hfirst⟩
        have hsame : first.sequence = i.sequence :=
          le_antisymm (earliestBy_le hfirst (hunpaid hi hsettled)) (holdest first hmem hopen)
        obtain ⟨hmem, hcontract⟩ := mem_contractInstallments.mp hmem
        obtain ⟨hi, hcontract'⟩ := mem_contractInstallments.mp hi
        exact congrArg some (h first hmem i hi (hcontract.trans hcontract'.symm) hsame)

end state

/-- A restructuring of the source numbers the new installments from 1. -/
def ReceivableStep.FromSource : ReceivableStep → Prop
  | .operation (.restructure offset _ _ _ _ _) => offset = 0
  | _ => True

structure SourceStep where
  step : ReceivableStep
  fromSource : step.FromSource

def SourceStep.apply (db : Database) (e : SourceStep) : Database := e.step.apply db

/-- A write-off that goes through for the contract finds none of its installments open. -/
def ReceivableStep.VoidsNothing (contractId : String) (db : Database) : ReceivableStep → Prop
  | .operation (.writeOff id companyUserId reason now) => id = contractId →
      (FinancingService.writeOffContract id companyUserId reason now db).isOk = true →
      ∀ i ∈ contractInstallments contractId db, i.status.settled = true
  | _ => True

/-- The rows of a contract have a sequence each, and begin with the first one. -/
structure Sequenced (contractId : String) (db : Database) : Prop where
  distinct : DistinctSequences db
  first : ∀ i ∈ db.installments.rows, i.financingContractId = contractId →
    HasFirstRow contractId db

def Unvoided (contractId : String) (db : Database) : Prop :=
  ∀ i ∈ contractInstallments contractId db, i.status ≠ .voided

section steps
variable {contractId id : String} {db db' : Database}

theorem Unvoided.oldestPayable (hs : Sequenced contractId db) (hu : Unvoided contractId db) :
    OldestPayable contractId db := by
  refine (oldestPayable_iff hs.distinct).mpr fun first hfirst => ?_
  obtain ⟨hmem, hcontract, -⟩ := mem_unpaidOf.mp (mem_of_earliestBy hfirst)
  exact hu first (mem_contractInstallments.mpr ⟨hmem, hcontract⟩)

/-- What a write to the rows keeps of a row -/
structure KeepsSequence (f : Installment → Installment) : Prop where
  contract : ∀ i, (f i).financingContractId = i.financingContractId
  sequence : ∀ i, (f i).sequence = i.sequence

theorem DistinctSequences.updateMany {p : Installment → Bool} {f : Installment → Installment}
    (hid : ∀ i, (f i).installmentId = i.installmentId) (hf : KeepsSequence f)
    (hrows : db'.installments = db.installments.updateMany p f hid)
    (hdistinct : DistinctSequences db) : DistinctSequences db' := by
  have horigin {i : Installment} (hi : i ∈ db'.installments.rows) :
      ∃ j ∈ db.installments.rows, (i = j ∧ p j = false ∨ p j = true ∧ i = f j) ∧
        i.financingContractId = j.financingContractId ∧ i.sequence = j.sequence := by
    rw [hrows] at hi
    rcases Table.mem_updateMany.mp hi with ⟨hi, hp⟩ | ⟨j, hj, hp, rfl⟩
    · exact ⟨i, hi, .inl ⟨rfl, hp⟩, rfl, rfl⟩
    · exact ⟨j, hj, .inr ⟨hp, rfl⟩, hf.contract j, hf.sequence j⟩
  intro i hi i' hi' hcontract hsequence
  obtain ⟨j, hj, he, hjc, hjs⟩ := horigin hi
  obtain ⟨j', hj', he', hjc', hjs'⟩ := horigin hi'
  obtain rfl : j = j' := hdistinct j hj j' hj' (by rw [← hjc, ← hjc', hcontract])
    (by rw [← hjs, ← hjs', hsequence])
  rcases he with ⟨rfl, hp⟩ | ⟨hp, rfl⟩ <;> rcases he' with ⟨rfl, hp'⟩ | ⟨hp', rfl⟩
  · rfl
  · rw [hp] at hp'
    cases hp'
  · rw [hp] at hp'
    cases hp'
  · rfl

theorem Sequenced.updateMany {p : Installment → Bool} {f : Installment → Installment}
    (hid : ∀ i, (f i).installmentId = i.installmentId) (hf : KeepsSequence f)
    (hrows : db'.installments = db.installments.updateMany p f hid)
    (hs : Sequenced contractId db) : Sequenced contractId db' := by
  refine ⟨hs.distinct.updateMany hid hf hrows, fun i hi hcontract => ?_⟩
  obtain ⟨j, hj, hjc⟩ : ∃ j ∈ db.installments.rows,
      i.financingContractId = j.financingContractId := by
    rw [hrows] at hi
    rcases Table.mem_updateMany.mp hi with ⟨hi, -⟩ | ⟨j, hj, -, rfl⟩
    · exact ⟨i, hi, rfl⟩
    · exact ⟨j, hj, hf.contract j⟩
  obtain ⟨k, hk, hkc, hks⟩ := hs.first j hj (hjc.symm.trans hcontract)
  rw [HasFirstRow, hrows]
  by_cases hp : p k = true
  · exact ⟨f k, Table.mem_updateMany.mpr (.inr ⟨k, hk, hp, rfl⟩), (hf.contract k).trans hkc,
      (hf.sequence k).trans hks⟩
  · exact ⟨k, Table.mem_updateMany.mpr (.inl ⟨hk, by simpa using hp⟩), hkc, hks⟩

theorem DistinctSequences.append {new : List Installment}
    (hrows : db'.installments.rows = db.installments.rows ++ new)
    (hnew : ∀ n ∈ new, n.financingContractId = id)
    (hsequences : ∀ n ∈ new, ∀ m ∈ new, n.sequence = m.sequence → n = m)
    (hfree : ∀ n ∈ new, ∀ i ∈ db.installments.rows, i.financingContractId = id →
      i.sequence ≠ n.sequence)
    (hdistinct : DistinctSequences db) : DistinctSequences db' := by
  intro i hi j hj hcontract hsequence
  rw [hrows, List.mem_append] at hi hj
  rcases hi with hi | hi <;> rcases hj with hj | hj
  · exact hdistinct i hi j hj hcontract hsequence
  · exact absurd hsequence (hfree j hj i hi (hcontract.trans (hnew j hj)))
  · exact absurd hsequence.symm (hfree i hi j hj (hcontract.symm.trans (hnew i hi)))
  · exact hsequences i hi j hj hsequence

/-- A schedule that is stored, numbered from 1 -/
structure StoresSchedule (id : String) (db db' : Database) : Prop where
  rows : ∃ new, db'.installments.rows = db.installments.rows ++ new ∧
    (∀ n ∈ new, n.financingContractId = id ∧ n.status = .pending) ∧
    (∀ n ∈ new, ∀ m ∈ new, n.sequence = m.sequence → n = m) ∧
    (∀ n ∈ new, ∃ m ∈ new, m.sequence = 1) ∧
    ∀ n ∈ new, ∀ i ∈ db.installments.rows, i.financingContractId = id → i.sequence ≠ n.sequence

theorem Sequenced.stores (h : StoresSchedule id db db') (hs : Sequenced contractId db) :
    Sequenced contractId db' := by
  obtain ⟨new, hrows, hnew, hdistinct, hfirst, hfree⟩ := h.rows
  have hmem {i : Installment} : i ∈ db'.installments.rows ↔ i ∈ db.installments.rows ∨ i ∈ new := by
    rw [hrows, List.mem_append]
  refine ⟨hs.distinct.append hrows (fun n hn => (hnew n hn).1) hdistinct hfree,
    fun i hi hcontract => ?_⟩
  rcases hmem.mp hi with hi | hi
  · obtain ⟨k, hk, hkc, hks⟩ := hs.first i hi hcontract
    exact ⟨k, hmem.mpr (.inl hk), hkc, hks⟩
  · obtain ⟨k, hk, hks⟩ := hfirst i hi
    exact ⟨k, hmem.mpr (.inr hk), ((hnew k hk).1.trans (hnew i hi).1.symm).trans hcontract, hks⟩

theorem stores_schedule {p : ScheduleParams} {schedule : List InstallmentCreateInput}
    {installmentId : ℕ → String} (hschedule : generateInstallmentSchedule p = .ok schedule)
    (hrows : db'.installments.rows =
      db.installments.rows ++ schedule.map fun row => row.row (installmentId row.sequence))
    (hfree : ∀ row ∈ schedule, sequenceTaken row.financingContractId row.sequence db = false) :
    StoresSchedule p.financingContractId db db' := by
  have hnew {n : Installment} (hn : n ∈ schedule.map fun row => row.row (installmentId row.sequence)) :
      ∃ k < p.months.toNat, n = (scheduleRow p k).row (installmentId (k + 1)) := by
    obtain ⟨row, hrow, rfl⟩ := List.mem_map.mp hn
    obtain ⟨k, hk, rfl⟩ := (mem_schedule hschedule).mp hrow
    exact ⟨k, hk, rfl⟩
  refine ⟨_, hrows, fun n hn => ?_, fun n hn m hm hsequence => ?_, fun n hn => ?_,
    fun n hn i hi hcontract => ?_⟩
  · obtain ⟨k, -, rfl⟩ := hnew hn
    exact ⟨rfl, rfl⟩
  · obtain ⟨k, -, rfl⟩ := hnew hn
    obtain ⟨l, -, rfl⟩ := hnew hm
    have hsequence : k + 1 = l + 1 := hsequence
    rw [Nat.succ.inj hsequence]
  · obtain ⟨k, hk, rfl⟩ := hnew hn
    have hrow := (mem_schedule hschedule).mpr ⟨0, Nat.zero_lt_of_lt hk, rfl⟩
    exact ⟨_, List.mem_map_of_mem hrow, rfl⟩
  · obtain ⟨row, hrow, rfl⟩ := List.mem_map.mp hn
    obtain ⟨k, -, rfl⟩ := (mem_schedule hschedule).mp hrow
    exact sequenceTaken_eq_false_iff.mp (hfree _ hrow) i hi hcontract

theorem numberedAfter_zero (schedule : List InstallmentCreateInput) :
    FinancingService.numberedAfter 0 schedule = schedule := by
  refine (List.map_congr_left fun row _ => ?_).trans (List.map_id schedule)
  rw [Nat.zero_add]
  rfl

/-- What a step does to the installments. Only a restructuring and a write-off void some, and a
restructuring goes through for a contract without a first row only. -/
theorem SourceStep.installments_cases (e : SourceStep) (db : Database) :
    (e.apply db).installments = db.installments ∨
    (∃ p f hid, KeepsSequence f ∧ (∀ i, (f i).status ≠ .voided) ∧
      (e.apply db).installments = db.installments.updateMany p f hid) ∨
    (∃ id, StoresSchedule id db (e.apply db)) ∨
    (∃ id, ¬ HasFirstRow id db ∧
      StoresSchedule id (FinancingService.voidInstallments id db) (e.apply db)) ∨
    ∃ id companyUserId reason now, e.step = .operation (.writeOff id companyUserId reason now) ∧
      (FinancingService.writeOffContract id companyUserId reason now db).isOk = true ∧
      (e.apply db).installments = (FinancingService.voidInstallments id db).installments := by
  obtain ⟨step, hsource⟩ := e
  cases step with
  | approveApplication applicationId reviewerId m =>
    cases h : KycService.approveApplication applicationId reviewerId m db with
    | error err =>
      refine .inl ?_
      rw [SourceStep.apply, ReceivableStep.apply, h]
      rfl
    | ok result =>
      have happly : (SourceStep.mk (.approveApplication applicationId reviewerId m) hsource).apply db =
          result.2 := by
        rw [SourceStep.apply, ReceivableStep.apply, h]
        rfl
      rw [happly]
      rcases KycService.approveApplication_cases h with
        ⟨-, r, contract, -, -, -, hactivates⟩ | ⟨-, hinstallments, -⟩
      · obtain ⟨schedule, hschedule, hrows, hfree⟩ := hactivates.installments
        exact .inr (.inr (.inl ⟨_, stores_schedule hschedule hrows hfree⟩))
      · exact .inl hinstallments
  | processPayment verifyPaystack job paymentId commissionId now =>
    rcases processPayment_cases verifyPaystack job paymentId commissionId now db with
      ⟨-, intents, hdb⟩ | ⟨i, -, -, -, hcommits⟩
    · refine .inl ?_
      rw [SourceStep.apply, hdb]
    · obtain ⟨payments, commissions, ledger, intents, hdb⟩ := hcommits.frame
      refine .inr (.inl ⟨fun j => j.installmentId = i.installment.installmentId,
        fun j => { j with status := .paid, paidAt := some now }, fun _ => rfl,
        ⟨fun _ => rfl, fun _ => rfl⟩, fun _ h => (by cases h), ?_⟩)
      rw [SourceStep.apply, hdb]
      rfl
  | operation op =>
    cases op with
    | pendingToDue now =>
      exact .inr (.inl ⟨_, fun i => { i with status := .due }, fun _ => rfl,
        ⟨fun _ => rfl, fun _ => rfl⟩, fun _ h => (by cases h), rfl⟩)
    | dueToOverdue now =>
      exact .inr (.inl ⟨_, fun i => { i with status := .overdue }, fun _ => rfl,
        ⟨fun _ => rfl, fun _ => rfl⟩, fun _ h => (by cases h), rfl⟩)
    | markDefaulted id late =>
      by_cases hmay : (db.financingContracts.find? id).any (fun c => c.status.mayDefault) = true
      · exact .inr (.inl ⟨_, defaultedRow, fun _ => rfl, ⟨fun _ => rfl, fun _ => rfl⟩,
          fun _ h => (by cases h), congrArg Database.installments (if_pos hmay)⟩)
      · exact .inl (congrArg Database.installments (if_neg hmay))
    | restructure offset id adminUserId newTerms installmentId now =>
      have hoffset : offset = 0 := hsource
      subst hoffset
      cases h : FinancingService.restructureContract 0 id adminUserId newTerms installmentId now db with
      | error err =>
        refine .inl ?_
        rw [SourceStep.apply, ReceivableStep.apply, ContractOperation.apply, h]
        rfl
      | ok result =>
        have happly : (SourceStep.mk (.operation (.restructure 0 id adminUserId newTerms installmentId
            now)) hsource).apply db = result.2 := by
          rw [SourceStep.apply, ReceivableStep.apply, ContractOperation.apply, h]
          rfl
        refine .inr (.inr (.inr (.inl ⟨id, fun hfirst => ?_, ?_⟩)))
        · obtain ⟨i, hi, hcontract, hsequence⟩ := hfirst
          have hrefused : (FinancingService.restructureContract 0 id adminUserId newTerms
              installmentId now db).isOk = false :=
            FinancingService.restructureContract_refused hi hcontract hsequence
          rw [h] at hrefused
          cases hrefused
        · obtain ⟨terms, o, schedule, -, hr⟩ := FinancingService.restructureContract_eq_ok h
          have hid : o.contract.contractId = id :=
            Table.find?_key (FinancingService.findForRestructure_eq_ok hr.found).1
          have hfree := hr.free
          have hrows := hr.closes.installments
          rw [numberedAfter_zero] at hfree hrows
          rw [happly]
          exact hid ▸ stores_schedule hr.scheduled (hid ▸ hrows) (hid ▸ hfree)
    | writeOff id companyUserId reason now =>
      cases h : FinancingService.writeOffContract id companyUserId reason now db with
      | error err =>
        refine .inl ?_
        rw [SourceStep.apply, ReceivableStep.apply, ContractOperation.apply, h]
        rfl
      | ok result =>
        obtain ⟨o, -, hcloses⟩ := FinancingService.writeOffContract_eq_ok h
        refine .inr (.inr (.inr (.inr ⟨id, companyUserId, reason, now, rfl, by rw [h]; rfl, ?_⟩)))
        have hrows := hcloses.installments
        rw [List.append_nil] at hrows
        rw [SourceStep.apply, ReceivableStep.apply, ContractOperation.apply, h]
        exact Table.ext hrows

theorem Sequenced.of_installments (h : db'.installments = db.installments)
    (hs : Sequenced contractId db) : Sequenced contractId db' := by
  constructor
  · rw [DistinctSequences, h]
    exact hs.distinct
  · rw [HasFirstRow, h]
    exact hs.first

theorem Sequenced.voidInstallments (id : String) (hs : Sequenced contractId db) :
    Sequenced contractId (FinancingService.voidInstallments id db) := by
  refine hs.updateMany (f := FinancingService.voidedRow) (fun _ => rfl) ?_ rfl
  exact ⟨fun _ => rfl, fun _ => rfl⟩

theorem mem_voidInstallments_iff {i : Installment} {id : String} :
    i ∈ (FinancingService.voidInstallments id db).installments.rows ↔
      i ∈ db.installments.rows ∧ ¬ (i.financingContractId = id ∧ i.status.voidable = true) ∨
      ∃ j ∈ db.installments.rows, (j.financingContractId = id ∧ j.status.voidable = true) ∧
        i = FinancingService.voidedRow j := by
  have hrows : i ∈ (db.installments.updateMany
      (fun i => i.financingContractId = id ∧ i.status.voidable = true) FinancingService.voidedRow
      fun _ => rfl).rows ↔ _ := Table.mem_updateMany
  simp only [decide_eq_true_iff, decide_eq_false_iff_not] at hrows
  exact hrows

theorem Sequenced.step (hs : Sequenced contractId db) (e : SourceStep) :
    Sequenced contractId (e.apply db) := by
  rcases e.installments_cases db with h | ⟨p, f, hid, hf, -, h⟩ | ⟨id, h⟩ | ⟨id, -, h⟩ |
    ⟨id, companyUserId, reason, now, -, -, h⟩
  · exact hs.of_installments h
  · exact hs.updateMany hid hf h
  · exact hs.stores h
  · exact (hs.voidInstallments id).stores h
  · exact (hs.voidInstallments id).of_installments h

theorem Unvoided.stores (h : StoresSchedule id db db') (hu : Unvoided contractId db) :
    Unvoided contractId db' := by
  obtain ⟨new, hrows, hnew, -, -, -⟩ := h.rows
  intro i hi
  obtain ⟨hi, hcontract⟩ := mem_contractInstallments.mp hi
  rw [hrows, List.mem_append] at hi
  rcases hi with hi | hi
  · exact hu i (mem_contractInstallments.mpr ⟨hi, hcontract⟩)
  · rw [(hnew i hi).2]
    exact InstallmentStatus.noConfusion

/-- Without an open installment there is nothing to void. -/
theorem Unvoided.voidInstallments (hu : Unvoided contractId db)
    (hclosed : id = contractId → ∀ i ∈ contractInstallments contractId db, i.status.settled = true) :
    Unvoided contractId (FinancingService.voidInstallments id db) := by
  intro i hi
  obtain ⟨hi, hcontract⟩ := mem_contractInstallments.mp hi
  rcases mem_voidInstallments_iff.mp hi with ⟨hi, -⟩ | ⟨j, hj, ⟨hid, hvoidable⟩, rfl⟩
  · exact hu i (mem_contractInstallments.mpr ⟨hi, hcontract⟩)
  · have hcontract : j.financingContractId = contractId := hcontract
    have hsettled := hclosed (hid.symm.trans hcontract) j (mem_contractInstallments.mpr ⟨hj, hcontract⟩)
    rw [voidable_eq, hsettled] at hvoidable
    cases hvoidable

theorem Unvoided.step (hs : Sequenced contractId db) (hu : Unvoided contractId db) {e : SourceStep}
    (hvoids : e.step.VoidsNothing contractId db) : Unvoided contractId (e.apply db) := by
  rcases e.installments_cases db with h | ⟨p, f, hid, hf, hstatus, h⟩ | ⟨id, h⟩ | ⟨id, hfirst, h⟩ |
    ⟨id, companyUserId, reason, now, he, hok, h⟩
  · rw [Unvoided, contractInstallments, h]
    exact hu
  · intro i hi
    obtain ⟨hi, hcontract⟩ := mem_contractInstallments.mp hi
    rw [h] at hi
    rcases Table.mem_updateMany.mp hi with ⟨hi, -⟩ | ⟨j, -, -, rfl⟩
    · exact hu i (mem_contractInstallments.mpr ⟨hi, hcontract⟩)
    · exact hstatus j
  · exact hu.stores h
  · refine (hu.voidInstallments fun hid i hi => ?_).stores h
    obtain ⟨hi, hcontract⟩ := mem_contractInstallments.mp hi
    exact absurd (hid ▸ hs.first i hi hcontract) hfirst
  · rw [he] at hvoids
    have hvoided := hu.voidInstallments fun hid => hvoids hid hok
    rw [Unvoided, contractInstallments, h]
    exact hvoided

/-- A write-off of open installments leaves a VOIDED one as the first that is not PAID. -/
theorem not_oldestPayable_of_voids (hs : Sequenced contractId db) {i : Installment}
    (hi : i ∈ contractInstallments contractId db) (hopen : i.status.settled = false)
    (h : db'.installments = (FinancingService.voidInstallments contractId db).installments) :
    ¬ OldestPayable contractId db' := by
  have hs' : Sequenced contractId db' := (hs.voidInstallments contractId).of_installments h
  obtain ⟨hi, hcontract⟩ := mem_contractInstallments.mp hi
  have hvoided : FinancingService.voidedRow i ∈ unpaidOf contractId db' := by
    refine mem_unpaidOf.mpr ⟨?_, hcontract, InstallmentStatus.noConfusion⟩
    rw [h]
    refine mem_voidInstallments_iff.mpr (.inr ⟨i, hi, ⟨hcontract, ?_⟩, rfl⟩)
    rw [voidable_eq, hopen]
    rfl
  rw [oldestPayable_iff hs'.distinct]
  intro hp
  cases hfirst : earliestBy Installment.sequence (unpaidOf contractId db') with
  | none =>
    rw [earliestBy_eq_none.mp hfirst] at hvoided
    cases hvoided
  | some first =>
    obtain ⟨hmem, hcontract, hunpaid⟩ := mem_unpaidOf.mp (mem_of_earliestBy hfirst)
    refine hp first hfirst ?_
    rw [h] at hmem
    rcases mem_voidInstallments_iff.mp hmem with ⟨-, hkept⟩ | ⟨j, -, -, rfl⟩
    · rw [voidable_eq] at hkept
      by_contra hvoided
      have hsettled := InstallmentStatus.settled_iff.mpr ⟨hunpaid, hvoided⟩
      exact hkept ⟨hcontract, by rw [hsettled]; rfl⟩
    · rfl

theorem oldestPayable_step_iff (hs : Sequenced contractId db) (hu : Unvoided contractId db)
    (e : SourceStep) :
    OldestPayable contractId (e.apply db) ↔ e.step.VoidsNothing contractId db := by
  constructor
  · intro hp
    rcases e with ⟨step, hsource⟩
    cases step with
    | operation op =>
      cases op with
      | writeOff id companyUserId reason now =>
        intro hid hok i hi
        subst hid
        by_contra hopen
        obtain ⟨result, h⟩ := isOk_iff.mp hok
        obtain ⟨o, -, hcloses⟩ := FinancingService.writeOffContract_eq_ok h
        have hrows := hcloses.installments
        rw [List.append_nil] at hrows
        refine not_oldestPayable_of_voids hs hi (by simpa using hopen) ?_ hp
        rw [SourceStep.apply, ReceivableStep.apply, ContractOperation.apply, h]
        exact Table.ext hrows
      | _ => trivial
    | _ => trivial
  · intro hvoids
    exact (hu.step hs hvoids).oldestPayable (hs.step e)

end steps

/-- From a contract without VOIDED installments on, the first open installment is the one to pay
along exactly those runs in which no write-off finds an open one. -/
theorem oldest_payable_throughout_iff {contractId : String} {db : Database}
    (hsequenced : Sequenced contractId db) (hunvoided : Unvoided contractId db)
    (steps : List SourceStep) :
    Throughout SourceStep.apply (OldestPayable contractId) db steps ↔
      Along SourceStep.apply (fun db e => e.step.VoidsNothing contractId db) db steps := by
  have hiff : Along SourceStep.apply (fun db e => OldestPayable contractId (e.apply db)) db steps ↔
      Along SourceStep.apply (fun db e => e.step.VoidsNothing contractId db) db steps :=
    along_iff_along (I := fun db => Sequenced contractId db ∧ Unvoided contractId db)
      (fun db e h => oldestPayable_step_iff h.1 h.2 e)
      (fun db e h hvoids => ⟨h.1.step e, h.2.step h.1 hvoids⟩) ⟨hsequenced, hunvoided⟩
  rw [throughout_iff_along_next, hiff]
  exact ⟨fun h => h.2, fun h => ⟨hunvoided.oldestPayable hsequenced, h⟩⟩

/-- The new contract with one installment of two paid and the write-off of the other -/
def halfPaidWrittenOff : List SourceStep :=
  [⟨activateNew, trivial⟩, ⟨chargeOf "new1" "r₁" "p₁", trivial⟩,
    ⟨.operation (.markDefaulted "new" fun _ => true), trivial⟩,
    ⟨.operation (.writeOff "new" "chief" "left town" 5), trivial⟩]

/-- Until the write-off, the first open installment is the one to pay. -/
theorem oldest_payable_before_writeOff :
    Throughout SourceStep.apply (OldestPayable "new") twoContracts
      (halfPaidWrittenOff.take 3) := by
  refine (oldest_payable_throughout_iff ⟨by decide, fun i hi => ?_⟩ (fun i hi => ?_) _).mpr
    ⟨trivial, trivial, trivial, trivial⟩
  · cases hi
  · cases hi

/-- The installment that the write-off voided may be paid. -/
theorem voided_installment_payable :
    (∃ i ∈ contractInstallments "new" (run SourceStep.apply twoContracts halfPaidWrittenOff),
      i.status = .voided ∧ (eligibility i (31 * 86400000)
        (run SourceStep.apply twoContracts halfPaidWrittenOff)).canPay = true) ∧
    ¬ OldestPayable "new" (run SourceStep.apply twoContracts halfPaidWrittenOff) := by
  have hpay : ∃ i ∈ contractInstallments "new"
      (run SourceStep.apply twoContracts halfPaidWrittenOff), i.status = .voided ∧
        (eligibility i (31 * 86400000)
          (run SourceStep.apply twoContracts halfPaidWrittenOff)).canPay = true := by
    decide +kernel
  obtain ⟨i, hi, hvoided, hcanPay⟩ := hpay
  refine ⟨⟨i, hi, hvoided, hcanPay⟩, fun hp => ?_⟩
  exact (InstallmentStatus.settled_iff.mp (hp.oldest _ i hi hcanPay).1).2 hvoided

end InstalFlow
