import InstalFlow.MerchantSettlement
import InstalFlow.PaymentEffects

/-!
# The generation of settlements

What a company is owed for the PAID installments of its customers that no
settlement has a line for: the amounts less the commissions on their payments.
The company of an installment is that of the user who owns the contract.
-/

namespace InstalFlow
open Relational

namespace MerchantSettlementService

def unsettled (db : Database) (i : Installment) : Bool :=
  i.status = .paid ∧ (db.merchantSettlementLines.find? i.installmentId).isNone

/-- `financingContract.user.companyId` -/
def customerCompany (db : Database) (i : Installment) : Option String :=
  (((db.financingContracts.find? i.financingContractId).bind FinancingContract.userId).bind
    db.users.find?).bind User.companyId

def eligibleInstallments (companyId : String) (db : Database) : List Installment :=
  db.installments.rows.filter
    (fun i => unsettled db i ∧ customerCompany db i = some companyId)

/-- The commissions on the latest successful payment of an installment. -/
def commissionDeducted (db : Database) (i : Installment) : ℚ :=
  match (db.payments.rows.filter
      (fun p => p.installmentId = i.installmentId ∧ p.status = .success)).getLast? with
  | none => 0
  | some payment =>
    db.commissions.sumWhere (fun c => c.paymentId = some payment.paymentId) Commission.amount

def settlementLine (settlementId : String) (db : Database) (i : Installment) :
    MerchantSettlementLine where
  settlementId := settlementId
  installmentId := i.installmentId
  grossAmount := i.amount
  commissionDeducted := commissionDeducted db i
  netAmount := i.amount - commissionDeducted db i

def createLines : List MerchantSettlementLine → Database → Except AppError Database
  | [], db => .ok db
  | line :: lines, db =>
    match createRow db.merchantSettlementLines line ["installmentId"] with
    | .error err => .error err
    | .ok merchantSettlementLines => createLines lines { db with merchantSettlementLines }

def generationEntry (settlementId action details : String) : MerchantSettlementAuditTrail where
  settlementId := settlementId
  action := action
  actorType := .system
  outcome := "SUCCESS"
  details := details

/-- The transaction creates the settlement and approves it at once. -/
def createSettlement (companyId settlementId : String) (lines : List MerchantSettlementLine)
    (amount : ℚ) (now : DateTime) (db : Database) :
    Except AppError (MerchantSettlementRequest × Database) := do
  let created : MerchantSettlementRequest := { settlementId, companyId, amount }
  let merchantSettlementRequests ←
    createRow db.merchantSettlementRequests created ["settlementId"]
  let db ← createLines lines { db with merchantSettlementRequests }
  let db := audit (generationEntry settlementId "GENERATED"
    s!"Generated from {lines.length} paid installment(s).") db
  let approve (s : MerchantSettlementRequest) : MerchantSettlementRequest :=
    { s with status := .approved, approvedAt := some now }
  let db := updateSettlement db settlementId approve (fun _ => rfl)
  return (approve created, audit (generationEntry settlementId "APPROVED"
    "Auto-approved — settlement has no manual approval step.") db)

def generateForCompany (companyId settlementId : String) (now : DateTime) (db : Database) :
    Except AppError (Option MerchantSettlementRequest × Database) :=
  let lines := (eligibleInstallments companyId db).map (settlementLine settlementId db)
  let totalAmount := (lines.map MerchantSettlementLine.netAmount).sum
  if lines.isEmpty ∨ totalAmount ≤ 0 then .ok (none, db)
  else
    match createSettlement companyId settlementId lines totalAmount now db with
    | .error err => .error err
    | .ok (settlement, db) => .ok (some settlement, db)

/-- The companies whose settlements a run of the scheduler generates. -/
def pendingCompanyIds (db : Database) : List String :=
  ((db.installments.rows.filter (unsettled db)).filterMap (customerCompany db)).eraseDups

def generateEach (settlementId : String → String) (now : DateTime) :
    List String → Database → Database × Except AppError (List MerchantSettlementRequest)
  | [], db => (db, .ok [])
  | companyId :: companyIds, db =>
    match generateForCompany companyId (settlementId companyId) now db with
    | .error err => (db, .error err)
    | .ok (settlement, db) =>
      match generateEach settlementId now companyIds db with
      | (db, .error err) => (db, .error err)
      | (db, .ok created) => (db, .ok (settlement.toList ++ created))

def generatePendingSettlements (settlementId : String → String) (now : DateTime) (db : Database) :
    Database × Except AppError (List MerchantSettlementRequest) :=
  generateEach settlementId now (pendingCompanyIds db) db

variable {db : Database} {i : Installment} {companyId : String}

theorem mem_eligibleInstallments : i ∈ eligibleInstallments companyId db ↔
    i ∈ db.installments.rows ∧ unsettled db i = true ∧
      customerCompany db i = some companyId := by
  simp [eligibleInstallments]

theorem mem_pendingCompanyIds : companyId ∈ pendingCompanyIds db ↔
    ∃ i, i ∈ eligibleInstallments companyId db := by
  simp [pendingCompanyIds, List.mem_eraseDups, mem_eligibleInstallments, and_assoc]

theorem createLines_eq_ok {lines : List MerchantSettlementLine} {db db' : Database}
    (h : createLines lines db = .ok db') :
    ∃ merchantSettlementLines, db' = { db with merchantSettlementLines } ∧
      merchantSettlementLines.rows = db.merchantSettlementLines.rows ++ lines := by
  induction lines generalizing db with
  | nil =>
    obtain rfl := Except.ok.inj h
    exact ⟨db.merchantSettlementLines, rfl, (List.append_nil _).symm⟩
  | cons line lines ih =>
    rw [createLines] at h
    split at h
    · cases h
    · rename_i created hcreate
      obtain ⟨table, rfl, hrows⟩ := ih h
      have hcreated := (Table.create_eq_some (createRow_eq_ok.mp hcreate)).2
      exact ⟨table, rfl, by rw [hrows, hcreated, List.append_assoc, List.singleton_append]⟩

/-- A generated settlement is new and approved, and its lines are added to those there are. -/
theorem createSettlement_eq_ok {settlementId : String} {lines : List MerchantSettlementLine}
    {amount : ℚ} {now : DateTime} {settlement : MerchantSettlementRequest} {db' : Database}
    (h : createSettlement companyId settlementId lines amount now db = .ok (settlement, db')) :
    ∃ merchantSettlementRequests merchantSettlementLines merchantSettlementAuditTrail,
      db' = { db with
        merchantSettlementRequests, merchantSettlementLines, merchantSettlementAuditTrail } ∧
      settlement = { settlementId, companyId, amount
                     status := .approved
                     approvedAt := some now } ∧
      db.merchantSettlementRequests.find? settlementId = none ∧
      (∀ k, merchantSettlementRequests.find? k =
        if k = settlementId then some settlement
        else db.merchantSettlementRequests.find? k) ∧
      merchantSettlementLines.rows = db.merchantSettlementLines.rows ++ lines := by
  rw [createSettlement] at h
  obtain ⟨settlements, hcreate, h⟩ := bind_eq_ok.mp h
  obtain ⟨db₁, hlines, h⟩ := bind_eq_ok.mp h
  obtain ⟨table, rfl, hrows⟩ := createLines_eq_ok hlines
  cases h
  have hcreate := createRow_eq_ok.mp hcreate
  refine ⟨_, table, _, rfl, rfl, (Table.create_eq_some hcreate).1, fun k => ?_, hrows⟩
  have happrove := Table.find?_update settlements settlementId k
    (fun s : MerchantSettlementRequest => { s with status := .approved, approvedAt := some now })
    (fun _ => rfl)
  refine happrove.trans ?_
  rw [Table.find?_create hcreate]
  split <;> rfl

end MerchantSettlementService
end InstalFlow
