import InstalFlow.CustomerReceivable
import InstalFlow.ScheduleTotals

/-!
# Restructuring an activated contract

The approval numbers the installments of a contract from 1, and so does a restructuring,
which keeps the old rows. The pair of contract and sequence being unique, the new schedule
is refused by the first row of the old.
-/

namespace InstalFlow
open Relational Transition

/-- The installments of a contract are numbered from 1 to `n`. -/
def Numbered (contractId : String) (n : ℕ) (db : Database) : Prop :=
  ∀ k, (∃ i ∈ db.installments.rows, i.financingContractId = contractId ∧ i.sequence = k) ↔
    1 ≤ k ∧ k ≤ n

/-- The contract has the row its schedules begin with. -/
def HasFirstRow (contractId : String) (db : Database) : Prop :=
  ∃ i ∈ db.installments.rows, i.financingContractId = contractId ∧ i.sequence = 1

theorem Numbered.hasFirstRow {contractId : String} {n : ℕ} {db : Database}
    (h : Numbered contractId n db) (hn : 1 ≤ n) : HasFirstRow contractId db :=
  (h 1).mpr ⟨le_rfl, hn⟩

namespace FinancingService

/-- The rows of a contract that were not there before -/
def newInstallments (contractId : String) (db db' : Database) : List Installment :=
  db'.installments.rows.filter fun i =>
    i.financingContractId = contractId ∧ (db.installments.find? i.installmentId).isNone

/-- What a restructuring leaves of a contract: the PAID installments as they were, the others
VOIDED, and new PENDING ones that add up to the new total. -/
structure RestructuresFully (contract : FinancingContract) (terms : RestructureTerms)
    (db db' : Database) : Prop where
  paid : ∀ i ∈ db.installments.rows, i.financingContractId = contract.contractId →
    i.status = .paid → db'.installments.find? i.installmentId = some i
  voided : ∀ i ∈ db.installments.rows, i.financingContractId = contract.contractId →
    i.status ≠ .paid → db'.installments.find? i.installmentId = some (voidedRow i)
  added : ((newInstallments contract.contractId db db').length : ℤ) = terms.numberOfInstallments
  pending : ∀ i ∈ newInstallments contract.contractId db db', i.status = .pending
  total : ∃ c ∈ db'.financingContracts.find? contract.contractId,
    ((newInstallments contract.contractId db db').map Installment.amount).sum = c.totalFinanced ∧
    c.totalFinanced = remainingAmount contract db + newInterest contract terms db

end FinancingService

section activation
variable {contractId : String} {db db' : Database} {r : Review} {contract : FinancingContract}
  {m : KycMoment}

/-- An approval numbers the installments of its contract from 1. -/
theorem numbered_of_activates (h : KycService.Activates r contract m db db')
    (hnew : ∀ i ∈ db.installments.rows, i.financingContractId ≠ contract.contractId) :
    1 ≤ contract.approvedDurationMonths.toNat ∧
      Numbered contract.contractId contract.approvedDurationMonths.toNat db' := by
  obtain ⟨schedule, hschedule, hrows, -⟩ := h.installments
  obtain ⟨hmonths, -, -⟩ := InstallmentService.generateInstallmentSchedule_eq_ok.mp hschedule
  have hmonths : 0 < contract.approvedDurationMonths := hmonths
  refine ⟨by omega, fun k => ?_⟩
  constructor
  · rintro ⟨i, hi, hcontract, rfl⟩
    rw [hrows, List.mem_append] at hi
    rcases hi with hi | hi
    · exact absurd hcontract (hnew i hi)
    · obtain ⟨row, hrow, rfl⟩ := List.mem_map.mp hi
      obtain ⟨j, hj, rfl⟩ := (InstallmentService.mem_schedule hschedule).mp hrow
      exact ⟨Nat.succ_pos j, hj⟩
  · rintro ⟨hpos, hle⟩
    have hrow := (InstallmentService.mem_schedule hschedule).mpr ⟨k - 1, by dsimp only; omega, rfl⟩
    have hmem := List.mem_append_right db.installments.rows (List.mem_map_of_mem
      (f := fun row => row.row (m.installmentId row.sequence)) hrow)
    exact ⟨_, hrows ▸ hmem, rfl, Nat.sub_add_cancel hpos⟩

end activation

namespace FinancingService
variable {contractId adminUserId : String} {newTerms : RestructureInput} {db : Database}
  {installmentId : ℕ → String} {now : DateTime}

/-- Whoever may restructure an activated contract, and to whichever terms, is answered with
the violation of the unique pair. -/
theorem restructureContract_conflict {terms : RestructureTerms} {o : OwnedContract}
    (hterms : RestructureContractSchema.parse newTerms = .ok terms)
    (hfound : findForRestructure contractId adminUserId db = .ok o)
    (hremaining : 0 < remainingAmount o.contract db) (hfirst : HasFirstRow contractId db) :
    restructureContract 0 contractId adminUserId newTerms installmentId now db =
      .error (.uniqueViolation ["financingContractId", "sequence"]) := by
  have hid : o.contract.contractId = contractId :=
    Table.find?_key (findForRestructure_eq_ok hfound).1
  have htotal : 0 < newTotalFinanced o.contract terms db := by
    have hinterest : 0 ≤ newInterest o.contract terms db :=
      div_nonneg (mul_nonneg hremaining.le terms.interest_bounds.1) (by norm_num)
    exact add_pos_of_pos_of_nonneg hremaining hinterest
  have hmonths : 0 < terms.numberOfInstallments := terms.installments_bounds.1
  obtain ⟨n, hn⟩ : ∃ n, terms.numberOfInstallments.toNat = n + 1 :=
    ⟨terms.numberOfInstallments.toNat - 1, by omega⟩
  have hschedule : newSchedule o.contract terms db = .ok _ :=
    InstallmentService.generateInstallmentSchedule_eq_ok.mpr ⟨hmonths, htotal, rfl⟩
  obtain ⟨i, hi, hcontract, hsequence⟩ := hfirst
  have htaken (db₀ : Database)
      (hrows : db₀.installments = (voidInstallments contractId db).installments) :
      InstallmentService.sequenceTaken contractId 1 db₀ = true := by
    rw [← Bool.not_eq_false, InstallmentService.sequenceTaken_eq_false_iff, hrows]
    intro hfree
    have hfree := hfree _ (mem_voidInstallments contractId hi)
    split at hfree
    · exact hfree hcontract hsequence
    · exact hfree hcontract hsequence
  rw [restructureContract, hterms]
  simp only [bind, Except.bind, hfound, hschedule]
  rw [hn, List.range_succ_eq_map, List.map_cons, numberedAfter, List.map_cons,
    InstallmentService.createInstallments, if_pos]
  dsimp only [InstallmentService.scheduleRow]
  rw [hid]
  exact htaken _ rfl

/-- As the source numbers the new installments, no activated contract is restructured. -/
theorem activated_contract_not_restructured {n : ℕ} (hn : 1 ≤ n)
    (hnumbered : Numbered contractId n db) (contract : FinancingContract)
    (terms : RestructureTerms) (adminUserId : String) (newTerms : RestructureInput)
    (installmentId : ℕ → String) (now : DateTime) :
    ¬ ∃ result, restructureContract 0 contractId adminUserId newTerms installmentId now db =
        .ok result ∧ RestructuresFully contract terms db result.2 := by
  rintro ⟨result, h, -⟩
  obtain ⟨i, hi, hcontract, hsequence⟩ := hnumbered.hasFirstRow hn
  have hrefused : (restructureContract 0 contractId adminUserId newTerms installmentId now db).isOk =
      false := restructureContract_refused hi hcontract hsequence
  rw [← Bool.not_eq_true, isOk_iff] at hrefused
  exact hrefused ⟨result, h⟩

section numbering
variable {offset : ℕ} {terms : RestructureTerms} {o : OwnedContract}
  {schedule : List InstallmentCreateInput} {db' : Database}

theorem find?_closes {f : FinancingContract → FinancingContract} {rows : List Installment}
    {posting : LedgerTransaction} (h : Closes contractId f rows posting db db') {i : Installment}
    (hi : i ∈ db.installments.rows) : db'.installments.find? i.installmentId = some
      (if i.financingContractId = contractId ∧ i.status.voidable then voidedRow i else i) := by
  refine Table.find?_eq_some_iff.mpr ⟨?_, by split <;> rfl⟩
  rw [h.installments]
  exact List.mem_append_left _ (mem_voidInstallments _ hi)

/-- The rows that a restructuring adds are those of its schedule. -/
theorem newInstallments_eq
    (h : Restructures offset contractId adminUserId terms o schedule installmentId now db db') :
    newInstallments contractId db db' =
      (numberedAfter offset schedule).map fun row => row.row (installmentId row.sequence) := by
  have hunique : (((voidInstallments contractId db).installments.rows ++
      (numberedAfter offset schedule).map fun row => row.row (installmentId row.sequence)).map
        Installment.installmentId).Nodup := h.closes.installments ▸ db'.installments.unique
  rw [List.map_append, List.nodup_append] at hunique
  have hids : (voidInstallments contractId db).installments.rows.map Installment.installmentId =
      db.installments.rows.map Installment.installmentId :=
    List.map_map.trans (List.map_congr_left fun i _ => by
      dsimp only [Function.comp]
      split <;> rfl)
  rw [newInstallments, h.closes.installments, List.filter_append]
  have hold : (voidInstallments contractId db).installments.rows.filter (fun i =>
      i.financingContractId = contractId ∧ (db.installments.find? i.installmentId).isNone) = [] := by
    refine List.filter_eq_nil_iff.mpr fun i hi hnew => ?_
    have hnone := Option.isNone_iff_eq_none.mp (of_decide_eq_true hnew).2
    have hmem : i.installmentId ∈ db.installments.rows.map Installment.installmentId :=
      hids ▸ List.mem_map_of_mem hi
    obtain ⟨j, hj, hkey⟩ := List.mem_map.mp hmem
    exact Table.find?_eq_none_iff.mp hnone j hj hkey
  have hnew : ((numberedAfter offset schedule).map fun row =>
      row.row (installmentId row.sequence)).filter (fun i =>
        i.financingContractId = contractId ∧ (db.installments.find? i.installmentId).isNone) =
      (numberedAfter offset schedule).map fun row => row.row (installmentId row.sequence) := by
    refine List.filter_eq_self.mpr fun i hi => decide_eq_true ⟨(restructured_rows h hi).1.1, ?_⟩
    refine Option.isNone_iff_eq_none.mpr (Table.find?_eq_none_iff.mpr fun j hj => ?_)
    exact hunique.2.2 _ (hids ▸ List.mem_map_of_mem hj) _ (List.mem_map_of_mem hi)
  rw [hold, hnew, List.nil_append]

/-- Numbered behind the old rows, the new ones would do what a restructuring is for exactly
when the new total is of whole kobo. -/
theorem restructuresFully_iff
    (h : Restructures offset contractId adminUserId terms o schedule installmentId now db db') :
    RestructuresFully o.contract terms db db' ↔
      newTotalFinanced o.contract terms db ∈ kobo := by
  have hcontract := (findForRestructure_eq_ok h.found).1
  have hid : o.contract.contractId = contractId := Table.find?_key hcontract
  have hrows := newInstallments_eq h
  have hsum : ((newInstallments contractId db db').map Installment.amount).sum =
      (InstallmentService.totalInCents (newTotalFinanced o.contract terms db) : ℚ) / 100 := by
    rw [hrows, sum_numberedAfter, InstallmentService.sum_schedule h.scheduled]
  have hafter : db'.financingContracts.find? contractId = some (restructuredContract
      (newInterest o.contract terms db) (newTotalFinanced o.contract terms db) adminUserId now
      o.contract) := by
    rw [find?_contract_closes _ h.closes, if_pos rfl, hcontract]
    rfl
  have hvoided {i : Installment} (hi : i ∈ db.installments.rows) := find?_closes h.closes hi
  constructor
  · intro hfull
    obtain ⟨c, hc, hadds, -⟩ := hfull.total
    rw [hid, hafter] at hc
    obtain rfl := Option.some.inj hc
    rw [hid] at hadds
    exact InstallmentService.roundedTotal_eq_iff.mp (hsum.symm.trans hadds)
  · intro hkobo
    refine ⟨fun i hi _ hpaid => ?_, fun i hi hc hunpaid => ?_, ?_, fun i hi => ?_, ?_⟩
    · rw [hvoided hi, if_neg fun hboth => ?_]
      rw [hpaid] at hboth
      exact absurd hboth.2 (by decide)
    · rw [hvoided hi]
      by_cases hopen : i.status.voidable = true
      · rw [if_pos ⟨hc.trans hid, hopen⟩]
      · rw [if_neg fun hboth => hopen hboth.2]
        have hsame : i.status = .voided := by
          cases hstatus : i.status <;> simp_all [InstallmentStatus.voidable]
        rw [voidedRow, ← hsame]
    · have hlength := congrArg List.length (InstallmentService.sequences_schedule h.scheduled)
      rw [List.length_map, List.length_map, List.length_range] at hlength
      rw [hid, hrows, List.length_map, numberedAfter, List.length_map, hlength]
      exact InstallmentService.cast_months h.scheduled
    · rw [hid, hrows] at hi
      exact (restructured_rows h hi).1.2
    · refine ⟨_, hid ▸ hafter, ?_, rfl⟩
      rw [hid, hsum]
      exact InstallmentService.roundedTotal_eq_iff.mpr hkobo

end numbering

/-- A DEFAULTED contract of 100 in two installments, the first of them paid -/
def halfPaid : Database where
  users := ⟨[{ userId := "ama", role := .admin, companyId := some "lender" },
    { userId := "kojo", email := "kojo@x.y", companyId := some "lender" }], by decide⟩
  financingContracts := ⟨[{ contractId := "loan", userId := some "kojo", productId := "fridge"
                            totalFinanced := 100, approvedDurationMonths := 2
                            status := .defaulted }], by decide⟩
  installments := ⟨[{ installmentId := "loan1", financingContractId := "loan", amount := 50
                      dueDate := 0, sequence := 1, status := .paid },
    { installmentId := "loan2", financingContractId := "loan", amount := 50
      dueDate := 1, sequence := 2, status := .overdue }], by decide⟩

theorem halfPaid_numbered : Numbered "loan" 2 halfPaid := by
  intro k
  constructor
  · rintro ⟨i, hi, -, rfl⟩
    have hall : ∀ i ∈ halfPaid.installments.rows, 1 ≤ i.sequence ∧ i.sequence ≤ 2 := by decide
    exact hall i hi
  · rintro ⟨hpos, hle⟩
    have hk : k = 1 ∨ k = 2 := by omega
    rcases hk with rfl | rfl <;> decide

def halfPaidLoan : FinancingContract :=
  { contractId := "loan", userId := some "kojo", productId := "fridge", totalFinanced := 100
    approvedDurationMonths := 2, status := .defaulted }

def threeInstallments : RestructureTerms := ⟨10, 3, 0, by decide, by decide⟩

/-- What is left of it cannot be put into three installments. -/
theorem halfPaid_not_restructured :
    ¬ ∃ result, restructureContract 0 "loan" "ama" ⟨10, 3, 0⟩ (fun n => s!"next{n}") 7 halfPaid =
        .ok result ∧ RestructuresFully halfPaidLoan threeInstallments halfPaid result.2 :=
  activated_contract_not_restructured (by decide) halfPaid_numbered halfPaidLoan threeInstallments
    _ _ _ _

/-- Its contract is found, the terms are accepted and half of it is open. -/
theorem halfPaid_conflict :
    (findForRestructure "loan" "ama" halfPaid).isOk = true ∧
    (RestructureContractSchema.parse ⟨10, 3, 0⟩).isOk = true ∧
    (∀ c ∈ halfPaid.financingContracts.find? "loan", remainingAmount c halfPaid = 50) ∧
    restructureContract 0 "loan" "ama" ⟨10, 3, 0⟩ (fun n => s!"next{n}") 7 halfPaid =
      .error (.uniqueViolation ["financingContractId", "sequence"]) := by
  have hok : (RestructureContractSchema.parse ⟨10, 3, 0⟩).isOk = true ∧
      (findForRestructure "loan" "ama" halfPaid).isOk = true := by decide +kernel
  have hremaining : ∀ c ∈ halfPaid.financingContracts.find? "loan",
      remainingAmount c halfPaid = 50 := by decide +kernel
  obtain ⟨terms, hterms⟩ := isOk_iff.mp hok.1
  obtain ⟨o, hfound⟩ := isOk_iff.mp hok.2
  refine ⟨hok.2, hok.1, hremaining, restructureContract_conflict hterms hfound ?_ ?_⟩
  · rw [hremaining _ (findForRestructure_eq_ok hfound).1]
    norm_num
  · exact halfPaid_numbered.hasFirstRow (by decide)

end FinancingService

end InstalFlow
