import InstalFlow.InstallmentSchedule

/-!
# Restructuring and writing off

A DEFAULTED contract is restructured: what it is short of, with new interest,
becomes its total, its open installments are voided, and a new schedule is
stored. A DEFAULTED or RESTRUCTURED contract is written off by a company account.
Each is one transaction; the notifications are left out.
-/

namespace InstalFlow
open Relational

structure RestructureInput where
  interestPercentage : ℚ
  numberOfInstallments : ℚ
  firstPaymentDate : DateTime

/-- What `RestructureContractSchema` lets through. -/
structure RestructureTerms where
  interestPercentage : ℚ
  numberOfInstallments : ℤ
  firstPaymentDate : DateTime
  interest_bounds : 0 ≤ interestPercentage ∧ interestPercentage ≤ 100
  installments_bounds : 1 ≤ numberOfInstallments ∧ numberOfInstallments ≤ 120

/-- Answered with the messages of all checks that fail. -/
def validationError (messages : List String) : AppError := .badRequest (", ".intercalate messages)

namespace RestructureContractSchema

def interestIssues (interestPercentage : ℚ) : List String :=
  if interestPercentage < 0 then ["Interest percentage must be non-negative"]
  else if 100 < interestPercentage then ["Interest percentage cannot exceed 100"]
  else []

/-- A number that is no integer is not compared any more. -/
def installmentsIssues (numberOfInstallments : ℚ) : List String :=
  if numberOfInstallments.den ≠ 1 then ["Number of installments must be an integer"]
  else if numberOfInstallments.num < 1 then ["At least 1 installment is required"]
  else if 120 < numberOfInstallments.num then ["Maximum 120 installments allowed"]
  else []

theorem interest_bounds {x : ℚ} (h : interestIssues x = []) : 0 ≤ x ∧ x ≤ 100 := by
  rw [interestIssues] at h
  split at h
  · cases h
  · split at h
    · cases h
    · rename_i hlow hhigh
      exact ⟨not_lt.mp hlow, not_lt.mp hhigh⟩

theorem installments_bounds {x : ℚ} (h : installmentsIssues x = []) : 1 ≤ x.num ∧ x.num ≤ 120 := by
  rw [installmentsIssues] at h
  split at h
  · cases h
  · split at h
    · cases h
    · split at h
      · cases h
      · rename_i hlow hhigh
        exact ⟨not_lt.mp hlow, not_lt.mp hhigh⟩

def parse (newTerms : RestructureInput) : Except AppError RestructureTerms :=
  if h : interestIssues newTerms.interestPercentage = [] ∧
      installmentsIssues newTerms.numberOfInstallments = [] then
    .ok
      { interestPercentage := newTerms.interestPercentage
        numberOfInstallments := newTerms.numberOfInstallments.num
        firstPaymentDate := newTerms.firstPaymentDate
        interest_bounds := interest_bounds h.1
        installments_bounds := installments_bounds h.2 }
  else .error (validationError (interestIssues newTerms.interestPercentage ++
    installmentsIssues newTerms.numberOfInstallments))

end RestructureContractSchema

namespace WriteOffContractSchema

/-- The `length` of a string, which counts UTF-16 code units. -/
def utf16Length (s : String) : ℕ := (s.toList.map fun c => if c.toNat < 0x10000 then 1 else 2).sum

def parse (reason : String) : Except AppError String :=
  if utf16Length reason < 4 then
    .error (validationError ["Write-off reason must be at least 4 characters"])
  else if 500 < utf16Length reason then .error (validationError ["Write-off reason is too long"])
  else .ok reason

end WriteOffContractSchema

/-- A contract with its customer and the user who acts on it. -/
structure OwnedContract where
  contract : FinancingContract
  user : User
  caller : User

structure RestructuredContract where
  contractId : String
  newTotalFinanced : ℚ
  newInstallments : ℤ
  status : FinancingStatus := .restructured

structure WrittenOffContract where
  contractId : String
  outstandingAmount : ℚ
  writeOffReason : String
  status : FinancingStatus := .writtenOff

/-- The statuses that both operations void. -/
def InstallmentStatus.voidable : InstallmentStatus → Bool
  | .pending | .due | .overdue | .defaulted => true
  | .paid | .voided => false

namespace FinancingService

def findContract (allowed : FinancingStatus → Bool) (refusal contractId : String) (db : Database) :
    Except AppError (FinancingContract × User) :=
  match db.financingContracts.find? contractId with
  | none => .error (.notFound "Contract not found")
  | some contract =>
    if !allowed contract.status then .error (.forbidden refusal)
    else
      match contract.userId.bind db.users.find? with
      | none => .error (.notFound "Contract owner not found")
      | some user => .ok (contract, user)

/-- A caller without a company may act on the contracts of every company. -/
def assertCaller (allowed : Role → Bool) (notStaff foreign callerId : String) (user : User)
    (db : Database) : Except AppError User :=
  match (db.users.find? callerId).filter (fun caller => allowed caller.role) with
  | none => .error (.forbidden notStaff)
  | some caller =>
    if caller.companyId.any (fun company => company ≠ "" ∧ user.companyId ≠ some company) then
      .error (.forbidden foreign)
    else .ok caller

def findForRestructure (contractId adminUserId : String) (db : Database) :
    Except AppError OwnedContract := do
  let (contract, user) ← findContract (fun status => status = .defaulted)
    "Only DEFAULTED contracts can be restructured" contractId db
  let caller ← assertCaller (fun role => role = .admin ∨ role = .company)
    "Only admins can restructure contracts" "You are not authorized to modify this contract"
    adminUserId user db
  return { contract, user, caller }

def findForWriteOff (contractId companyUserId : String) (db : Database) :
    Except AppError OwnedContract := do
  let (contract, user) ← findContract
    (fun status => status = .defaulted ∨ status = .restructured)
    "Only DEFAULTED or RESTRUCTURED contracts can be written off" contractId db
  let caller ← assertCaller (fun role => role = .company)
    "Only company accounts can write off contracts"
    "You are not authorized to write off this contract" companyUserId user db
  return { contract, user, caller }

def paidAmount (contractId : String) (db : Database) : ℚ :=
  db.installments.sumWhere (fun i => i.financingContractId = contractId ∧ i.status = .paid)
    Installment.amount

/-- `remainingPrincipal` of the one operation, `outstandingAmount` of the other -/
def remainingAmount (contract : FinancingContract) (db : Database) : ℚ :=
  contract.totalFinanced - paidAmount contract.contractId db

def newInterest (contract : FinancingContract) (terms : RestructureTerms) (db : Database) : ℚ :=
  remainingAmount contract db * terms.interestPercentage / 100

def newTotalFinanced (contract : FinancingContract) (terms : RestructureTerms) (db : Database) : ℚ :=
  remainingAmount contract db + newInterest contract terms db

def restructuredContract (interest totalFinanced : ℚ) (adminUserId : String) (now : DateTime)
    (c : FinancingContract) : FinancingContract :=
  { c with
    status := .restructured
    interest
    totalFinanced
    restructuredAt := some now
    restructuredById := some adminUserId }

def writtenOffContract (companyUserId reason : String) (now : DateTime) (c : FinancingContract) :
    FinancingContract :=
  { c with
    status := .writtenOff
    writtenOffAt := some now
    writtenOffById := some companyUserId
    writeOffReason := some reason }

def updateContract (contractId : String) (f : FinancingContract → FinancingContract)
    (hf : ∀ c, (f c).contractId = c.contractId) (db : Database) : Database :=
  { db with financingContracts := db.financingContracts.update contractId f hf }

def voidedRow (i : Installment) : Installment := { i with status := .voided }

def voidInstallments (contractId : String) (db : Database) : Database :=
  { db with
    installments := db.installments.updateMany
      (fun i => i.financingContractId = contractId ∧ i.status.voidable) voidedRow (fun _ => rfl) }

/-- The rows of a schedule behind those numbered up to `offset`. -/
def numberedAfter (offset : ℕ) (schedule : List InstallmentCreateInput) :
    List InstallmentCreateInput :=
  schedule.map fun row => { row with sequence := offset + row.sequence }

def restructurePosting (o : OwnedContract) (terms : RestructureTerms) (now : DateTime)
    (db : Database) : LedgerTransaction where
  reference := s!"RESTRUCTURE-{o.contract.contractId}-{now}"
  description := s!"Contract {o.contract.contractId} restructured by " ++ o.caller.name.getD "null"
  companyId := o.user.companyId.filter (fun company => company ≠ "")
  entries :=
    [{ accountName := "CUSTOMER_RECEIVABLE", accountType := .asset
       debit := newTotalFinanced o.contract terms db },
     { accountName := "BAD_DEBT_RECOVERY", accountType := .revenue
       credit := remainingAmount o.contract db },
     { accountName := "INTEREST_INCOME", accountType := .revenue
       credit := newInterest o.contract terms db }]

def writeOffPosting (o : OwnedContract) (reason : String) (now : DateTime) (db : Database) :
    LedgerTransaction where
  reference := s!"WRITEOFF-{o.contract.contractId}-{now}"
  description := s!"Contract {o.contract.contractId} written off: " ++ reason
  companyId := o.user.companyId.filter (fun company => company ≠ "")
  entries :=
    [{ accountName := "BAD_DEBT_EXPENSE", accountType := .expense
       debit := remainingAmount o.contract db },
     { accountName := "CUSTOMER_RECEIVABLE", accountType := .asset
       credit := remainingAmount o.contract db }]

def newSchedule (contract : FinancingContract) (terms : RestructureTerms) (db : Database) :
    Except AppError (List InstallmentCreateInput) :=
  InstallmentService.generateInstallmentSchedule
    { financingContractId := contract.contractId
      totalAmount := newTotalFinanced contract terms db
      months := terms.numberOfInstallments
      firstPaymentDate := terms.firstPaymentDate }

/-- The new installments are numbered from `offset + 1`. The source has no offset: it
numbers them from 1, like the first ones, and so an activated contract refuses them. -/
def restructureContract (offset : ℕ) (contractId adminUserId : String) (newTerms : RestructureInput)
    (installmentId : ℕ → String) (now : DateTime) (db : Database) :
    Except AppError (RestructuredContract × Database) := do
  let validated ← RestructureContractSchema.parse newTerms
  let o ← findForRestructure contractId adminUserId db
  let interest := newInterest o.contract validated db
  let total := newTotalFinanced o.contract validated db
  let posting := restructurePosting o validated now db
  let schedule ← newSchedule o.contract validated db
  let db := updateContract contractId (restructuredContract interest total adminUserId now)
    (fun _ => rfl) db
  let db ← InstallmentService.createInstallments installmentId (numberedAfter offset schedule)
    (voidInstallments contractId db)
  let db ← post posting db
  return ({ contractId, newTotalFinanced := total
            newInstallments := validated.numberOfInstallments }, db)

def writeOffContract (contractId companyUserId reason : String) (now : DateTime) (db : Database) :
    Except AppError (WrittenOffContract × Database) := do
  let validated ← WriteOffContractSchema.parse reason
  let o ← findForWriteOff contractId companyUserId db
  let outstandingAmount := remainingAmount o.contract db
  let posting := writeOffPosting o validated now db
  let db := updateContract contractId (writtenOffContract companyUserId validated now)
    (fun _ => rfl) db
  let db ← post posting (voidInstallments contractId db)
  return ({ contractId, outstandingAmount, writeOffReason := validated }, db)

section specifications
variable {contractId callerId refusal notStaff foreign : String} {db : Database}
  {o : OwnedContract}

theorem findContract_eq_ok {allowed : FinancingStatus → Bool} {found : FinancingContract × User}
    (h : findContract allowed refusal contractId db = .ok found) :
    db.financingContracts.find? contractId = some found.1 ∧ allowed found.1.status = true := by
  rw [findContract] at h
  split at h
  · cases h
  · rename_i contract hcontract
    split at h
    · cases h
    · rename_i hallowed
      split at h
      · cases h
      · cases h
        exact ⟨hcontract, by simpa using hallowed⟩

theorem findForRestructure_eq_ok (h : findForRestructure contractId callerId db = .ok o) :
    db.financingContracts.find? contractId = some o.contract ∧ o.contract.status = .defaulted := by
  obtain ⟨found, hfound, h⟩ := bind_eq_ok.mp h
  obtain ⟨caller, -, h⟩ := bind_eq_ok.mp h
  cases h
  obtain ⟨hcontract, hstatus⟩ := findContract_eq_ok hfound
  exact ⟨hcontract, by simpa using hstatus⟩

theorem findForWriteOff_eq_ok (h : findForWriteOff contractId callerId db = .ok o) :
    db.financingContracts.find? contractId = some o.contract ∧
      (o.contract.status = .defaulted ∨ o.contract.status = .restructured) := by
  obtain ⟨found, hfound, h⟩ := bind_eq_ok.mp h
  obtain ⟨caller, -, h⟩ := bind_eq_ok.mp h
  cases h
  obtain ⟨hcontract, hstatus⟩ := findContract_eq_ok hfound
  exact ⟨hcontract, by simpa using hstatus⟩

/-- What both operations write: the contract, its installments voided with new
rows behind them, and the ledger. -/
structure Closes (contractId : String) (f : FinancingContract → FinancingContract)
    (rows : List Installment) (posting : LedgerTransaction) (db db' : Database) : Prop where
  contracts : ∃ hf, db'.financingContracts = db.financingContracts.update contractId f hf
  installments : db'.installments.rows =
    (voidInstallments contractId db).installments.rows ++ rows
  ledger : LedgerService.recordTransaction posting db.ledger = .ok db'.ledger
  elsewhere : db' = { db with
    financingContracts := db'.financingContracts, installments := db'.installments
    ledger := db'.ledger }

/-- What a restructuring that commits has read and written. -/
structure Restructures (offset : ℕ) (contractId adminUserId : String) (terms : RestructureTerms)
    (o : OwnedContract) (schedule : List InstallmentCreateInput) (installmentId : ℕ → String)
    (now : DateTime) (db db' : Database) : Prop where
  found : findForRestructure contractId adminUserId db = .ok o
  scheduled : newSchedule o.contract terms db = .ok schedule
  free : ∀ row ∈ numberedAfter offset schedule,
    InstallmentService.sequenceTaken row.financingContractId row.sequence
      (voidInstallments contractId db) = false
  closes : Closes contractId
    (restructuredContract (newInterest o.contract terms db) (newTotalFinanced o.contract terms db)
      adminUserId now)
    ((numberedAfter offset schedule).map fun row => row.row (installmentId row.sequence))
    (restructurePosting o terms now db) db db'

theorem restructureContract_eq_ok {offset : ℕ} {newTerms : RestructureInput}
    {installmentId : ℕ → String} {now : DateTime} {result : RestructuredContract × Database}
    (h : restructureContract offset contractId callerId newTerms installmentId now db =
      .ok result) : ∃ terms o schedule, RestructureContractSchema.parse newTerms = .ok terms ∧
      Restructures offset contractId callerId terms o schedule installmentId now db result.2 := by
  obtain ⟨terms, hterms, h⟩ := bind_eq_ok.mp h
  obtain ⟨o, ho, h⟩ := bind_eq_ok.mp h
  obtain ⟨schedule, hschedule, h⟩ := bind_eq_ok.mp h
  obtain ⟨db₁, hcreate, h⟩ := bind_eq_ok.mp h
  obtain ⟨db₂, hpost, h⟩ := bind_eq_ok.mp h
  cases h
  obtain ⟨installments, rfl, hrows, hfree⟩ := InstallmentService.createInstallments_eq_ok hcreate
  obtain ⟨ledger, hledger, rfl⟩ := post_eq_ok hpost
  exact ⟨terms, o, schedule, hterms, ho, hschedule, hfree,
    ⟨fun _ => rfl, rfl⟩, hrows, hledger, rfl⟩

theorem mem_voidInstallments (contractId : String) {i : Installment}
    (hi : i ∈ db.installments.rows) :
    (if i.financingContractId = contractId ∧ i.status.voidable then voidedRow i else i) ∈
      (voidInstallments contractId db).installments.rows := by
  refine List.mem_map.mpr ⟨i, hi, ?_⟩
  simp

/-- As the source numbers them, the new installments of a contract meet its first one. -/
theorem restructureContract_refused {newTerms : RestructureInput} {installmentId : ℕ → String}
    {now : DateTime} {i : Installment} (hi : i ∈ db.installments.rows)
    (hcontract : i.financingContractId = contractId) (hsequence : i.sequence = 1) :
    (restructureContract 0 contractId callerId newTerms installmentId now db).isOk = false := by
  rw [← Bool.not_eq_true, isOk_iff]
  rintro ⟨result, h⟩
  obtain ⟨terms, o, schedule, -, hr⟩ := restructureContract_eq_ok h
  have hid : o.contract.contractId = contractId :=
    Table.find?_key (findForRestructure_eq_ok hr.found).1
  have hmonths : 0 < terms.numberOfInstallments.toNat := by
    have := terms.installments_bounds.1
    omega
  have hfirst := (InstallmentService.mem_schedule hr.scheduled).mpr ⟨0, hmonths, rfl⟩
  have hfree := InstallmentService.sequenceTaken_eq_false_iff.mp
    (hr.free _ (List.mem_map_of_mem hfirst)) _ (mem_voidInstallments _ hi)
  split at hfree
  · exact hfree (hcontract.trans hid.symm) hsequence
  · exact hfree (hcontract.trans hid.symm) hsequence

theorem writeOffContract_eq_ok {reason : String} {now : DateTime}
    {result : WrittenOffContract × Database}
    (h : writeOffContract contractId callerId reason now db = .ok result) :
    ∃ o, findForWriteOff contractId callerId db = .ok o ∧
      Closes contractId (writtenOffContract callerId reason now) []
        (writeOffPosting o reason now db) db result.2 := by
  obtain ⟨validated, hreason, h⟩ := bind_eq_ok.mp h
  obtain ⟨o, ho, h⟩ := bind_eq_ok.mp h
  obtain ⟨db₁, hpost, h⟩ := bind_eq_ok.mp h
  cases h
  obtain ⟨ledger, hledger, rfl⟩ := post_eq_ok hpost
  have hvalidated : validated = reason := by
    rw [WriteOffContractSchema.parse] at hreason
    split at hreason
    · cases hreason
    · split at hreason
      · cases hreason
      · cases hreason
        rfl
  subst hvalidated
  exact ⟨o, ho, ⟨fun _ => rfl, rfl⟩, (List.append_nil _).symm, hledger, rfl⟩

end specifications
end FinancingService
end InstalFlow
