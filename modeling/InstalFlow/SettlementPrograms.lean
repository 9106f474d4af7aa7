import InstalFlow.PaymentOpening
import InstalFlow.SettlementGeneration

/-!
# The programs that generate settlements

`generateForCompany` reads the paid installments of a company without a line,
their latest payments and the commissions on these one after another, and then
sends a transaction whose lines it has computed before. Others run in between: the
jobs of payments, changes of a product's commission rate and further generations.
-/

namespace InstalFlow
open Relational Transition

namespace MerchantSettlementService

/-- The `payments` of an installment that the query includes. -/
def latestPayment (db : Database) (i : Installment) : Option Payment :=
  (db.payments.rows.filter
    fun p => p.installmentId = i.installmentId ∧ p.status = .success).getLast?

def commissionsOn (db : Database) : Option Payment → ℚ
  | none => 0
  | some payment =>
    db.commissions.sumWhere (fun c => c.paymentId = some payment.paymentId) Commission.amount

def lineOf (settlementId : String) (i : Installment) (commissionDeducted : ℚ) :
    MerchantSettlementLine where
  settlementId := settlementId
  installmentId := i.installmentId
  grossAmount := i.amount
  commissionDeducted := commissionDeducted
  netAmount := i.amount - commissionDeducted

theorem commissionDeducted_eq (db : Database) (i : Installment) :
    commissionDeducted db i = commissionsOn db (latestPayment db i) := by
  rw [commissionDeducted, latestPayment]
  split <;> rename_i h <;> rw [h] <;> rfl

end MerchantSettlementService

/-- A generation that is about to open its transaction. -/
structure Generation where
  companyId : String
  settlementId : String
  lines : List MerchantSettlementLine
  now : DateTime

namespace Generation

def totalAmount (g : Generation) : ℚ := (g.lines.map MerchantSettlementLine.netAmount).sum

def create (g : Generation) (db : Database) :
    Except AppError (MerchantSettlementRequest × Database) :=
  MerchantSettlementService.createSettlement g.companyId g.settlementId g.lines g.totalAmount
    g.now db

def commit (g : Generation) (db : Database) : Database := committed db Prod.snd (g.create db)

theorem commit_paymentIntents (g : Generation) (db : Database) :
    (g.commit db).paymentIntents = db.paymentIntents := by
  refine committed_rule (P := fun db' => db'.paymentIntents = db.paymentIntents) rfl ?_
  intro result h
  obtain ⟨_, _, _, hdb, -⟩ := MerchantSettlementService.createSettlement_eq_ok h
  rw [hdb]

def write (g : Generation) : IntentWrite := .elsewhere g.commit g.commit_paymentIntents

end Generation

/-- What the schemas of a product admit as a rate, in percent. -/
structure CommissionRate where
  value : ℚ
  nonneg : 0 ≤ value
  le_hundred : value ≤ 100

def setCommissionRate (productId : String) (rate : CommissionRate) (db : Database) : Database :=
  { db with products :=
      db.products.update productId (fun p => { p with commissionRate := rate.value }) }

def CommissionRate.write (productId : String) (rate : CommissionRate) : IntentWrite :=
  .elsewhere (setCommissionRate productId rate) fun _ => rfl

namespace IntentProgram
open MerchantSettlementService

/-- The transaction, unless nothing is owed. -/
def settle (g : Generation) : IntentProgram (Option MerchantSettlementRequest) := do
  if g.lines.isEmpty ∨ g.totalAmount ≤ 0 then return none
  let settlement ← send g.write fun _ db => (g.create db).map Prod.fst
  return some settlement

def generateForCompany (companyId : String) :
    IntentProgram (Option MerchantSettlementRequest) := do
  let eligible ← select fun _ db => .ok (eligibleInstallments companyId db)
  let paid ← select fun _ db => .ok (eligible.map fun i => (i, latestPayment db i))
  let deducted ← select fun _ db => .ok (paid.map fun p => (p.1, commissionsOn db p.2))
  let m ← moment
  settle
    { companyId, settlementId := m.uuid
      lines := deducted.map fun d => lineOf m.uuid d.1 d.2
      now := m.now }

def generateEach : List String → IntentProgram (List MerchantSettlementRequest)
  | [] => return []
  | companyId :: companyIds => do
    let settlement ← generateForCompany companyId
    let created ← generateEach companyIds
    return settlement.toList ++ created

def generatePendingSettlements : IntentProgram (List MerchantSettlementRequest) := do
  let rows ← select fun _ db => .ok (db.installments.rows.filter (unsettled db))
  let companyIds ← select fun _ db => .ok (rows.filterMap (customerCompany db)).eraseDups
  generateEach companyIds

def setCommissionRate (productId : String) (rate : CommissionRate) : IntentProgram Unit :=
  send (rate.write productId) fun _ _ => .ok ()

theorem settle_complete_of_none {g : Generation} (h : g.lines.isEmpty ∨ g.totalAmount ≤ 0)
    (m : Moment) (db : Database) : (settle g).complete m db = (db, .ok none) := by
  rw [settle]
  simp only [if_pos h]
  rfl

theorem settle_complete_of_some {g : Generation} (h : ¬ (g.lines.isEmpty ∨ g.totalAmount ≤ 0))
    (m : Moment) (db : Database) : (settle g).complete m db =
      (g.commit db, (g.create db).map fun r => some r.1) := by
  rw [settle]
  simp only [if_neg h]
  cases hcreate : g.create db with
  | error err =>
    refine complete_bind_of_error ?_
    rw [complete_send, hcreate]
    rfl
  | ok result =>
    refine (complete_bind_of_ok (d := g.commit db) (a := result.1) ?_).trans rfl
    rw [complete_send, hcreate]
    rfl

/-- With nothing in between, the program is the generation as one function. -/
theorem generateForCompany_complete (companyId : String) (m : Moment) (db : Database) :
    (generateForCompany companyId).complete m db =
      (committed db Prod.snd
          (MerchantSettlementService.generateForCompany companyId m.uuid m.now db),
        (MerchantSettlementService.generateForCompany companyId m.uuid m.now db).map Prod.fst) := by
  have hlines : ((((eligibleInstallments companyId db).map fun i => (i, latestPayment db i)).map
      fun p => (p.1, commissionsOn db p.2)).map fun d => lineOf m.uuid d.1 d.2) =
        (eligibleInstallments companyId db).map (settlementLine m.uuid db) := by
    rw [List.map_map, List.map_map]
    refine List.map_congr_left fun i _ => ?_
    rw [settlementLine, commissionDeducted_eq]
    rfl
  refine (complete_bind_of_ok (complete_select _)).trans ?_
  refine (complete_bind_of_ok (complete_select _)).trans ?_
  refine (complete_bind_of_ok (complete_select _)).trans ?_
  refine (complete_bind_of_ok (complete_select _)).trans ?_
  simp only [hlines]
  rw [MerchantSettlementService.generateForCompany]
  split
  · rename_i hnone
    exact settle_complete_of_none hnone m db
  · rename_i hsome
    refine (settle_complete_of_some hsome m db).trans ?_
    simp only [Generation.commit, Generation.create, Generation.totalAmount]
    split <;> rename_i hcreate <;> rw [hcreate] <;> rfl

end IntentProgram

/-- Whatever runs beside the generations. -/
inductive SettlementFlow
  | payment (flow : InstallmentFlow)
  | setCommissionRate (productId : String) (rate : CommissionRate)
  | generateForCompany (companyId : String)
  | generatePendingSettlements

def SettlementFlow.program : SettlementFlow → IntentProgram Unit
  | payment flow => flow.program
  | setCommissionRate productId rate => IntentProgram.setCommissionRate productId rate
  | generateForCompany companyId => discard (IntentProgram.generateForCompany companyId)
  | generatePendingSettlements => discard IntentProgram.generatePendingSettlements

end InstalFlow
