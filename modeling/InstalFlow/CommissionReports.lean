import InstalFlow.ContractLives
import InstalFlow.KycDecisions
import InstalFlow.MarketerBalances
import InstalFlow.MoneyPostings
import InstalFlow.PayoutQueries
import InstalFlow.Relational.Grouping
import InstalFlow.Relational.Growth

/-!
# Commissions by customer and by product

The reports of a marketer gather the commissions by the customer and by the product of the
contract that was paid, and pass over a commission that leads to none. A payment job accrues for
the referrer of the customer it has just looked up, no customer changes the referrer, and no
activated contract changes the customer. So nothing is passed over.
-/

namespace InstalFlow
open Relational Accounting Transition

/-- The customer of a contract, as it is selected -/
structure ContractCustomer extends UserSummary where
  role : Role
  companyId : Option String

structure CommissionRecord where
  commission : Commission
  payment : Option Payment
  installment : Option Installment
  financingContract : Option FinancingContract
  product : Option Product
  user : Option ContractCustomer

structure AllTimeCommissions where
  totalCommissions : ℚ
  totalRecords : ℕ
  commissions : List CommissionRecord

structure CustomerCommission where
  customerId : String
  customerName : String
  customerEmail : String
  totalCommission : ℚ

structure ProductCommission where
  productId : String
  productName : String
  totalCommission : ℚ

namespace CustomerCommission

def ofUser (u : User) : CustomerCommission := ⟨u.userId, u.name.getD "", u.email, 0⟩

def plus (c : Commission) (entry : CustomerCommission) : CustomerCommission :=
  { entry with totalCommission := entry.totalCommission + c.amount }

theorem accumulates : Accumulates customerId ofUser plus totalCommission Commission.amount :=
  ⟨fun _ _ => rfl, fun _ => rfl, fun _ _ => rfl⟩

/-- Whom an entry is about -/
def about (entry : CustomerCommission) : String × String × String :=
  (entry.customerId, entry.customerName, entry.customerEmail)

theorem about_plus (c : Commission) (entry : CustomerCommission) :
    (plus c entry).about = entry.about := rfl

end CustomerCommission

namespace ProductCommission

def ofProduct (p : Product) : ProductCommission := ⟨p.productId, p.name, 0⟩

def plus (c : Commission) (entry : ProductCommission) : ProductCommission :=
  { entry with totalCommission := entry.totalCommission + c.amount }

theorem accumulates : Accumulates productId ofProduct plus totalCommission Commission.amount :=
  ⟨fun _ _ => rfl, fun _ => rfl, fun _ _ => rfl⟩

end ProductCommission

namespace CommissionService
open AnalyticsService (contractOf)

def customerOf (db : Database) (c : Commission) : Option User :=
  (contractOf c db).bind fun contract => contract.userId.bind db.users.find?

def productOf (db : Database) (c : Commission) : Option Product :=
  (contractOf c db).bind fun contract => db.products.find? contract.productId

def commissionsOf (userId : String) (db : Database) : List Commission :=
  db.commissions.rows.filter fun c => c.userId = userId

def commissionRecord (db : Database) (c : Commission) : CommissionRecord :=
  let payment := c.paymentId.bind db.payments.find?
  { commission := c
    payment
    installment := payment.bind fun p => db.installments.find? p.installmentId
    financingContract := contractOf c db
    product := productOf db c
    user := (customerOf db c).map fun u =>
      { toUserSummary := u.summary, role := u.role, companyId := u.companyId } }

def getAllTimeCommissions (userId : String) (db : Database) : AllTimeCommissions :=
  let commissions := (commissionsOf userId db).insertionSort fun c d => d.createdAt ≤ c.createdAt
  { totalCommissions := commissions.foldl (fun acc item => acc + item.amount) 0
    totalRecords := commissions.length
    commissions := commissions.map (commissionRecord db) }

def getCommissionPerCustomer (userId : String) (db : Database) : List CustomerCommission :=
  groupWith CustomerCommission.customerId (customerOf db) .ofUser .plus (commissionsOf userId db)

def getCommissionPerProduct (userId : String) (db : Database) : List ProductCommission :=
  groupWith ProductCommission.productId (productOf db) .ofProduct .plus (commissionsOf userId db)

end CommissionService

open CommissionService

inductive EarningStep
  | portfolio (e : PortfolioStep)
  | payout (op : Operation)

def EarningStep.apply (db : Database) : EarningStep → Database
  | portfolio e => e.apply db
  | payout op => op.apply db

/-- The commission was accrued for the referrer of a customer, on a product there is. -/
structure Earned (db : Database) (c : Commission) : Prop where
  referred : ∃ customer ∈ customerOf db c, customer.referredByMarketerId = some c.userId
  product : (productOf db c).isSome = true

/-- A contract gets its customer with the approval of its application, and a commission is
earned. -/
structure Database.Referred (db : Database) : Prop where
  approved : ∀ c ∈ db.financingContracts.rows, c.userId.isSome = true →
    ∃ a ∈ db.kycApplications.find? c.kycApplicationId, a.status = .approved
  earned : ∀ c ∈ db.commissions.rows, Earned db c

/-- The reports of a marketer are of referred customers, and each makes up the total. -/
structure ReportsComplete (userId : String) (db : Database) : Prop where
  customers : Grouped CustomerCommission.customerId (fun c => (customerOf db c).map User.userId)
    CustomerCommission.totalCommission Commission.amount (commissionsOf userId db)
    (getCommissionPerCustomer userId db)
  products : Grouped ProductCommission.productId (fun c => (productOf db c).map Product.productId)
    ProductCommission.totalCommission Commission.amount (commissionsOf userId db)
    (getCommissionPerProduct userId db)
  customersTotal : ((getCommissionPerCustomer userId db).map
    CustomerCommission.totalCommission).sum = (getAllTimeCommissions userId db).totalCommissions
  productsTotal : ((getCommissionPerProduct userId db).map
    ProductCommission.totalCommission).sum = (getAllTimeCommissions userId db).totalCommissions
  referrals : ∀ entry ∈ getCommissionPerCustomer userId db,
    ∃ customer ∈ db.users.find? entry.customerId, customer.referredByMarketerId = some userId ∧
      entry.customerName = customer.name.getD "" ∧ entry.customerEmail = customer.email

section reports
variable {userId : String} {db : Database}

theorem totalCommissions_eq_sum (userId : String) (db : Database) :
    (getAllTimeCommissions userId db).totalCommissions =
      ((commissionsOf userId db).map Commission.amount).sum := by
  have hfold (rows : List Commission) (acc : ℚ) :
      rows.foldl (fun acc item => acc + item.amount) acc =
        acc + (rows.map Commission.amount).sum := by
    induction rows generalizing acc with
    | nil => simp
    | cons c rows ih => rw [List.foldl_cons, ih, List.map_cons, List.sum_cons, add_assoc]
  change List.foldl _ _ _ = _
  rw [hfold, zero_add]
  exact ((List.perm_insertionSort _ _).map _).sum_eq

theorem Database.Referred.reportsComplete (h : db.Referred) (userId : String) :
    ReportsComplete userId db := by
  have hcustomers := grouped_groupWith CustomerCommission.accumulates (customerOf db)
    (commissionsOf userId db)
  have hproducts := grouped_groupWith ProductCommission.accumulates (productOf db)
    (commissionsOf userId db)
  have hearned : ∀ c ∈ commissionsOf userId db, Earned db c := fun c hc =>
    h.earned c (List.mem_of_mem_filter hc)
  refine ⟨hcustomers, hproducts, ?_, ?_, fun entry hentry => ?_⟩
  · rw [totalCommissions_eq_sum]
    refine hcustomers.sum_eq.trans ?_
    rw [List.filter_eq_self.mpr fun c hc => ?_]
    obtain ⟨customer, hcustomer, -⟩ := (hearned c hc).referred
    rw [Option.mem_def.mp hcustomer]
    rfl
  · rw [totalCommissions_eq_sum]
    refine hproducts.sum_eq.trans ?_
    rw [List.filter_eq_self.mpr fun c hc => ?_]
    rw [Option.isSome_map]
    exact (hearned c hc).product
  · obtain ⟨c, hc, u, hu, hlabel⟩ := label_of_mem_groupWith CustomerCommission.about
      CustomerCommission.about_plus _ entry hentry
    obtain ⟨hid, hlabel⟩ := Prod.mk.inj hlabel
    obtain ⟨hname, hemail⟩ := Prod.mk.inj hlabel
    obtain ⟨customer, hcustomer, hreferrer⟩ := (hearned c hc).referred
    obtain rfl := Option.some.inj (hu.symm.trans hcustomer)
    have howner : c.userId = userId := by simpa using (List.mem_filter.mp hc).2
    obtain ⟨contract, -, hfind⟩ := Option.bind_eq_some_iff.mp hu
    obtain ⟨k, -, hfind⟩ := Option.bind_eq_some_iff.mp hfind
    have hkey := Table.find?_key hfind
    refine ⟨u, ?_, howner ▸ hreferrer, hname, hemail⟩
    rw [hid]
    rwa [← hkey] at hfind

end reports

/-- What a step leaves of that by which the commissions are attributed: only what the last approval
writes is new. -/
structure KeepsEarnings (db db' : Database) : Prop where
  payments : ∀ k p, db.payments.find? k = some p →
    (db'.payments.find? k).map Payment.installmentId = some p.installmentId
  installments : ∀ k i, db.installments.find? k = some i →
    (db'.installments.find? k).map Installment.financingContractId = some i.financingContractId
  contracts : ∀ k c, db.financingContracts.find? k = some c → c.userId.isSome = true →
    (db'.financingContracts.find? k).map FinancingContract.links = some c.links
  users : ∀ k u, db.users.find? k = some u → db'.users.find? k = some u
  products : db'.products = db.products

/-- Applications stay approved, and a customer is new with an approval only. -/
structure KeepsApproved (db db' : Database) : Prop where
  applications : ∀ k a, db.kycApplications.find? k = some a → a.status = .approved →
    db'.kycApplications.find? k = some a
  customers : ∀ c' ∈ db'.financingContracts.rows, c'.userId.isSome = true →
    (∃ c ∈ db.financingContracts.rows, c.userId.isSome = true ∧
      c'.kycApplicationId = c.kycApplicationId) ∨
    ∃ a ∈ db'.kycApplications.find? c'.kycApplicationId, a.status = .approved

/-- The commissions afterwards: attributed as before, or earned -/
def CommissionsEarned (db db' : Database) : Prop :=
  ∀ c' ∈ db'.commissions.rows, (∃ c ∈ db.commissions.rows, c'.userId = c.userId ∧
    c'.paymentId = c.paymentId) ∨ Earned db' c'

section attribution
variable {db db' : Database} {c c' : Commission}

theorem KeepsEarnings.contractOf (h : KeepsEarnings db db') (hpayment : c'.paymentId = c.paymentId)
    {contract : FinancingContract} (hcontract : AnalyticsService.contractOf c db = some contract)
    (howned : contract.userId.isSome = true) : ∃ contract',
      AnalyticsService.contractOf c' db' = some contract' ∧ contract'.links = contract.links := by
  obtain ⟨payment, hfind, hcontract⟩ := Option.bind_eq_some_iff.mp hcontract
  obtain ⟨installment, hinstallment, hcontract⟩ := Option.bind_eq_some_iff.mp hcontract
  obtain ⟨paymentId, hid, hfind⟩ := Option.bind_eq_some_iff.mp hfind
  obtain ⟨payment', hfind', hsame⟩ := Option.map_eq_some_iff.mp (h.payments _ _ hfind)
  obtain ⟨installment', hinstallment', hsame'⟩ :=
    Option.map_eq_some_iff.mp (h.installments _ _ hinstallment)
  obtain ⟨contract', hcontract', hlinks⟩ :=
    Option.map_eq_some_iff.mp (h.contracts _ _ hcontract howned)
  refine ⟨contract', ?_, hlinks⟩
  rw [AnalyticsService.contractOf, hpayment, hid, Option.bind_some, hfind', Option.bind_eq_bind,
    Option.bind_some, hsame, hinstallment', Option.bind_eq_bind, Option.bind_some, hsame']
  exact hcontract'

theorem Earned.keeps (h : Earned db c) (hk : KeepsEarnings db db') (huser : c'.userId = c.userId)
    (hpayment : c'.paymentId = c.paymentId) : Earned db' c' := by
  obtain ⟨customer, hcustomer, hreferrer⟩ := h.referred
  obtain ⟨contract, hcontract, hcustomer⟩ := Option.bind_eq_some_iff.mp hcustomer
  obtain ⟨customerId, howner, hcustomer⟩ := Option.bind_eq_some_iff.mp hcustomer
  have hproduct := h.product
  rw [productOf, hcontract, Option.bind_some] at hproduct
  obtain ⟨contract', hcontract', hlinks⟩ := hk.contractOf hpayment hcontract (by rw [howner]; rfl)
  obtain ⟨huserId, hlinks⟩ := Prod.mk.inj hlinks
  obtain ⟨-, hproductId⟩ := Prod.mk.inj hlinks
  refine ⟨⟨customer, ?_, by rw [huser, hreferrer]⟩, ?_⟩
  · rw [customerOf, hcontract', Option.bind_some, huserId, howner]
    exact hk.users _ _ hcustomer
  · rw [productOf, hcontract', Option.bind_some, hproductId, hk.products]
    exact hproduct

theorem Database.Referred.keeps (h : db.Referred) (hk : KeepsEarnings db db')
    (happroved : KeepsApproved db db') (hearned : CommissionsEarned db db') : db'.Referred := by
  refine ⟨fun c' hc' howned => ?_, fun c' hc' => ?_⟩
  · rcases happroved.customers c' hc' howned with ⟨c, hc, hbefore, hsame⟩ | hnew
    · obtain ⟨a, ha, hstatus⟩ := h.approved c hc hbefore
      rw [hsame]
      exact ⟨a, happroved.applications _ _ ha hstatus, hstatus⟩
    · exact hnew
  · rcases hearned c' hc' with ⟨c, hc, huser, hpayment⟩ | hnew
    · exact (h.earned c hc).keeps hk huser hpayment
    · exact hnew

theorem KeepsApproved.of_owners (hk : KeepsOwners db db') : KeepsApproved db db' := by
  obtain ⟨id, f, hf, hlinks, hcontracts⟩ := hk.contracts
  refine ⟨fun k a ha _ => by rwa [hk.applications], fun c' hc' howned => .inl ?_⟩
  rw [hcontracts] at hc'
  rcases Table.mem_update hc' with hc | ⟨c, hc, rfl⟩
  · exact ⟨c', hc, howned, rfl⟩
  · obtain ⟨huserId, hrest⟩ := Prod.mk.inj (hlinks c)
    exact ⟨c, hc, huserId ▸ howned, (Prod.mk.inj hrest).1⟩

theorem KeepsEarnings.of_owners (hk : KeepsOwners db db')
    (hpayments : ∀ k p, db.payments.find? k = some p →
      (db'.payments.find? k).map Payment.installmentId = some p.installmentId)
    (hinstallments : ∀ k i, db.installments.find? k = some i →
      (db'.installments.find? k).map Installment.financingContractId =
        some i.financingContractId) : KeepsEarnings db db' := by
  obtain ⟨id, f, hf, hlinks, hcontracts⟩ := hk.contracts
  refine ⟨hpayments, hinstallments, fun k c hc _ => ?_, fun k u hu => by rwa [hk.users],
    hk.products⟩
  rw [hcontracts, Table.find?_update_map db.financingContracts id k hf hlinks, hc, Option.map_some]

theorem CommissionsEarned.of_eq (h : db'.commissions = db.commissions) :
    CommissionsEarned db db' := fun c hc => .inl ⟨c, h ▸ hc, rfl, rfl⟩

end attribution

namespace PaymentWorker
variable {i : LoadedInstallment} {reference paymentId commissionId : String} {now : DateTime}
  {db db' : Database}

/-- The payment is of the installment, and no other is of another than before. -/
structure RecordsFor (installmentId : String) (payment : Payment)
    (before after : Table Payment.paymentId) : Prop where
  stored : (after.find? payment.paymentId).map Payment.installmentId = some installmentId
  kept : ∀ k p, before.find? k = some p →
    (after.find? k).map Payment.installmentId = some p.installmentId

theorem recordPayment_recordsFor {installment : Installment} {gatewayRef : String}
    {payment : Payment} (h : recordPayment installment reference gatewayRef paymentId db =
      .ok (payment, db')) :
    RecordsFor installment.installmentId payment db.payments db'.payments := by
  rw [recordPayment] at h
  split at h
  · rename_i existing hfound
    have hmem := List.mem_of_find?_eq_some hfound
    obtain ⟨hinstallment, -⟩ := by simpa using List.find?_some hfound
    split at h
    · cases h
    · cases h
      have hview (k : String) := Table.find?_update_map (g := Payment.installmentId) db.payments
        existing.paymentId k (f := fun p => { p with
          status := .success, providerReference := some gatewayRef }) (fun _ => rfl) fun _ => rfl
      refine ⟨?_, fun k p hp => ?_⟩
      · refine (hview existing.paymentId).trans ?_
        rw [Table.find?_of_mem hmem, Option.map_some, hinstallment]
      · refine (hview k).trans ?_
        rw [hp, Option.map_some]
  · simp only at h
    split at h
    · cases h
    · split at h
      · cases h
      · split at h
        · cases h
        · rename_i created hcreate
          cases h
          have hcreate := createRow_eq_ok.mp hcreate
          refine ⟨?_, fun k p hp => ?_⟩
          · rw [Table.find?_create hcreate, if_pos rfl]
            rfl
          · rw [Table.find?_of_create hcreate hp, Option.map_some]

theorem transaction_attributes {intent : PaymentIntent} {v : Verification}
    {result : PaymentResult}
    (h : transaction i intent v reference paymentId commissionId now db = .ok (result, db')) :
    ∃ payment, RecordsFor i.installment.installmentId payment db.payments db'.payments ∧
      AccruesFor i payment.paymentId db.commissions db'.commissions := by
  obtain ⟨⟨payment, db₁⟩, hpayment, h⟩ := bind_eq_ok.mp h
  obtain ⟨⟨record, db₂⟩, haccrue, h⟩ := bind_eq_ok.mp h
  obtain ⟨db₃, hpost, h⟩ := bind_eq_ok.mp h
  obtain ⟨db₄, hintent, h⟩ := bind_eq_ok.mp h
  have hrecords := recordPayment_recordsFor hpayment
  obtain ⟨payments, rfl⟩ := recordPayment_frame hpayment
  obtain ⟨commissions, rfl, haccrues⟩ := accrueCommission_created haccrue
  obtain ⟨ledger, -, rfl⟩ := post_eq_ok hpost
  have hdb₄ := PaymentIntentService.ignoreConflict_markSuccess hintent
  cases h
  rw [completion_eq] at hdb₄
  rw [hdb₄]
  exact ⟨payment, hrecords, haccrues⟩

theorem process_attributes {verifyPaystack : String → Except String Verification}
    {job : PaymentJobData} {result : PaymentJobResult}
    (h : process verifyPaystack job paymentId commissionId now db = .ok (result, db')) :
    (∃ paymentIntents, db' = { db with paymentIntents }) ∨
      ∃ i payment, loadInstallment job.installmentId db = some i ∧ Commits i now db db' ∧
        RecordsFor i.installment.installmentId payment db.payments db'.payments ∧
        AccruesFor i payment.paymentId db.commissions db'.commissions := by
  obtain ⟨i, hload, ⟨-, hintents⟩ | ⟨hunpaid, hcommits⟩⟩ := process_eq_ok h
  · exact .inl hintents
  · rw [process, hload] at h
    simp only [if_neg hunpaid] at h
    split at h
    · cases h
    · split at h
      · cases h
      · split at h
        · cases h
        · split at h
          · cases h
          · rename_i htransaction
            cases h
            obtain ⟨payment, hrecords, haccrues⟩ := transaction_attributes htransaction
            exact .inr ⟨i, payment, hload, hcommits, hrecords, haccrues⟩

/-- The commission of a payment is its customer's referrer's. -/
theorem AccruesFor.earned {payment : Payment} {installmentId : String} {c : Commission}
    (hload : loadInstallment installmentId db = some i)
    (hpayments : RecordsFor i.installment.installmentId payment db.payments db'.payments)
    (hk : KeepsEarnings { db with payments := db'.payments } db')
    (hpayment : c.paymentId = some payment.paymentId)
    (haccrual : accrual i = some (c.userId, c.amount)) : Earned db' c := by
  simp only [loadInstallment, Option.bind_eq_bind, Option.bind_eq_some_iff,
    Option.pure_def, Option.some.injEq] at hload
  obtain ⟨installment, hinstallment, contract, hcontract, product, hproduct, rfl⟩ := hload
  obtain ⟨p, hp, hof⟩ := Option.map_eq_some_iff.mp hpayments.stored
  have hfound : AnalyticsService.contractOf c { db with payments := db'.payments } =
      some contract := by
    rw [AnalyticsService.contractOf, hpayment, Option.bind_some]
    change (db'.payments.find? payment.paymentId).bind _ = _
    rw [hp, Option.bind_some, hof]
    change (db.installments.find? installment.installmentId).bind _ = _
    rw [Table.find?_key hinstallment, hinstallment]
    exact hcontract
  have hreferred : ∃ customer, contract.userId.bind db.users.find? = some customer ∧
      customer.referredByMarketerId = some c.userId := by
    rw [accrual] at haccrual
    split at haccrual
    · cases haccrual
    · rename_i marketerId hmarketer
      split at haccrual
      · rw [← (Prod.mk.inj (Option.some.inj haccrual)).1]
        exact Option.bind_eq_some_iff.mp hmarketer
      · cases haccrual
  obtain ⟨customer, hcustomer, hreferrer⟩ := hreferred
  refine Earned.keeps (c := c) ⟨⟨customer, ?_, hreferrer⟩, ?_⟩ hk rfl rfl
  · rw [customerOf, hfound]
    exact hcustomer
  · rw [productOf, hfound]
    exact Option.isSome_iff_exists.mpr ⟨product, hproduct⟩

end PaymentWorker

section steps
variable {db db' : Database}

theorem find?_of_installments {f : Installment → Installment} {p : Installment → Bool}
    (hid : ∀ i, (f i).installmentId = i.installmentId)
    (hcontract : ∀ i, (f i).financingContractId = i.financingContractId) {rows : List Installment}
    (h : db'.installments.rows = (db.installments.updateMany p f hid).rows ++ rows) (k : String)
    (i : Installment) (hi : db.installments.find? k = some i) :
    (db'.installments.find? k).map Installment.financingContractId =
      some i.financingContractId := by
  have hview := Table.find?_updateMany_map db.installments p k hid hcontract
  rw [hi, Option.map_some, Option.map_eq_some_iff] at hview
  obtain ⟨j, hj, hsame⟩ := hview
  have hfind : db'.installments.find? k = some j := by
    refine Table.find?_eq_some_iff.mpr ⟨?_, Table.find?_key hj⟩
    rw [h]
    exact List.mem_append_left _ (Table.mem_of_find? hj)
  rw [hfind, Option.map_some, hsame]

theorem KeepsEarnings.payment (hk : KeepsOwners db db')
    (hpayments : ∀ k p, db.payments.find? k = some p →
      (db'.payments.find? k).map Payment.installmentId = some p.installmentId)
    {installmentId : String} {now : DateTime} (hinstallments : db'.installments =
      (PaymentWorker.markInstallmentPaid installmentId now db).installments) :
    KeepsEarnings db db' := by
  refine .of_owners hk hpayments fun k i hi => ?_
  rw [hinstallments]
  exact find?_of_installments (f := fun i => { i with status := .paid, paidAt := some now })
    (fun _ => rfl) (fun _ => rfl) (List.append_nil _).symm k i hi

/-- A payment job accrues what is earned. -/
theorem Database.Referred.processPayment (h : db.Referred)
    (verifyPaystack : String → Except String Verification) (job : PaymentJobData)
    (paymentId commissionId : String) (now : DateTime) : Database.Referred
      ((ReceivableStep.processPayment verifyPaystack job paymentId commissionId now).apply db) := by
  have howners := KeepsOwners.payment verifyPaystack job paymentId commissionId now db
  rw [ReceivableStep.apply] at howners ⊢
  cases hcall : PaymentWorker.process verifyPaystack job paymentId commissionId now db with
  | error err => exact h
  | ok result =>
    rw [hcall, committed_ok] at howners
    rw [committed_ok]
    rcases PaymentWorker.process_attributes hcall with
      ⟨intents, hdb⟩ | ⟨i, payment, hload, hcommits, hrecords, haccrues⟩
    · refine h.keeps (.of_owners howners ?_ ?_) (.of_owners howners) (.of_eq (by rw [hdb]))
      · rw [hdb]
        exact fun k p hp => by rw [hp, Option.map_some]
      · rw [hdb]
        exact fun k i hi => by rw [hi, Option.map_some]
    · obtain ⟨payments, commissions, ledger, intents, hdb⟩ := hcommits.frame
      have hinstallments : result.2.installments =
          (PaymentWorker.markInstallmentPaid i.installment.installmentId now db).installments := by
        rw [hdb]
      refine h.keeps (.payment howners hrecords.kept hinstallments) (.of_owners howners) ?_
      rcases haccrues with ⟨-, hsame⟩ | ⟨c, hpayment, haccrual, hcreate⟩
      · exact .of_eq hsame
      · intro c' hc'
        rw [(Table.create_eq_some hcreate).2, List.mem_append, List.mem_singleton] at hc'
        rcases hc' with hc' | rfl
        · exact .inl ⟨c', hc', rfl, rfl⟩
        · refine .inr (PaymentWorker.AccruesFor.earned hload hrecords ?_ hpayment haccrual)
          have hk : KeepsOwners { db with payments := result.2.payments } result.2 :=
            ⟨howners.users, howners.products, howners.applications, howners.sessions,
              howners.contracts⟩
          exact .payment hk (fun k p hp => by rw [hp, Option.map_some]) hinstallments

theorem find?_of_closes_installments {id : String} {f : FinancingContract → FinancingContract}
    {rows : List Installment} {posting : LedgerTransaction}
    (h : FinancingService.Closes id f rows posting db db') (k : String) (i : Installment)
    (hi : db.installments.find? k = some i) :
    (db'.installments.find? k).map Installment.financingContractId = some i.financingContractId :=
  find?_of_installments (f := FinancingService.voidedRow) (fun _ => rfl) (fun _ => rfl)
    h.installments k i hi

theorem ContractOperation.keepsContractOf (op : ContractOperation) (k : String) (i : Installment)
    (hi : db.installments.find? k = some i) :
    ((op.apply db).installments.find? k).map Installment.financingContractId =
      some i.financingContractId := by
  have hsame : (db.installments.find? k).map Installment.financingContractId =
      some i.financingContractId := by rw [hi, Option.map_some]
  have hcommitted {α : Type} {state : α → Database} {r : Except AppError α}
      (hr : ∀ a, r = .ok a → ((state a).installments.find? k).map
        Installment.financingContractId = some i.financingContractId) :
      ((committed db state r).installments.find? k).map Installment.financingContractId =
        some i.financingContractId :=
    committed_rule (P := fun db' : Database => (db'.installments.find? k).map
      Installment.financingContractId = some i.financingContractId) hsame hr
  cases op with
  | pendingToDue now =>
    exact find?_of_installments (f := fun i => { i with status := .due }) (fun _ => rfl)
      (fun _ => rfl) (List.append_nil _).symm k i hi
  | dueToOverdue now =>
    exact find?_of_installments (f := fun i => { i with status := .overdue }) (fun _ => rfl)
      (fun _ => rfl) (List.append_nil _).symm k i hi
  | markDefaulted id late =>
    rw [apply, InstalFlow.markDefaulted]
    split
    · exact find?_of_installments (f := defaultedRow) (fun _ => rfl) (fun _ => rfl)
        (List.append_nil _).symm k i hi
    · exact hsame
  | restructure offset id adminUserId newTerms installmentId now =>
    refine hcommitted fun result hcall => ?_
    obtain ⟨terms, o, schedule, -, hr⟩ := FinancingService.restructureContract_eq_ok hcall
    exact find?_of_closes_installments hr.closes k i hi
  | writeOff id companyUserId reason now =>
    refine hcommitted fun result hcall => ?_
    obtain ⟨o, -, hcloses⟩ := FinancingService.writeOffContract_eq_ok hcall
    exact find?_of_closes_installments hcloses k i hi

theorem Database.Referred.operation (h : db.Referred) (op : ContractOperation) :
    (op.apply db).Referred := by
  obtain ⟨contracts, installments, ledger, hdb⟩ := op.frame db
  have howners := KeepsOwners.operation op db
  refine h.keeps (.of_owners howners ?_ op.keepsContractOf) (.of_owners howners)
    (.of_eq (by rw [hdb]))
  rw [hdb]
  exact fun k p hp => by rw [hp, Option.map_some]

/-- A payout leaves every commission its marketer and its payment. -/
theorem CommissionsEarned.payout {op : Operation} (hnone : op.accrual? db = none) :
    CommissionsEarned db (op.apply db) := by
  rcases (op.apply_cases db).2 with happlies | ⟨-, c, hc⟩
  · intro c' hc'
    have hrow := (happlies c'.commissionId).row
    rw [Table.find?_of_mem hc'] at hrow
    obtain ⟨c, hc, hmoved⟩ := Option.map_eq_some_iff.mp hrow.symm
    rw [← hmoved]
    exact .inl ⟨c, Table.mem_of_find? hc, rfl, rfl⟩
  · have hterms := op.commissionTerms_apply db
    rw [hnone, Database.commissionTerms, (Table.create_eq_some hc.created).2] at hterms
    have hlength := congrArg List.length hterms
    simp [Database.commissionTerms] at hlength

theorem Database.Referred.payout (h : db.Referred) (op : Operation) : (op.apply db).Referred := by
  have hother (hnone : op.accrual? db = none) : (op.apply db).Referred := by
    rcases op.frame_cases db with
      ⟨verifyPaystack, job, paymentId, commissionId, now, rfl⟩ | ⟨cs, as, ps, banks, ledger, hdb⟩
    · exact h.processPayment verifyPaystack job paymentId commissionId now
    · have howners : KeepsOwners db (op.apply db) := by
        rw [hdb]
        exact .of_same rfl rfl rfl rfl rfl
      refine h.keeps (.of_owners howners ?_ ?_) (.of_owners howners) (.payout hnone)
      · rw [hdb]
        exact fun k p hp => by rw [hp, Option.map_some]
      · rw [hdb]
        exact fun k i hi => by rw [hi, Option.map_some]
  cases op with
  | processPayment verifyPaystack job paymentId commissionId now =>
    exact h.processPayment verifyPaystack job paymentId commissionId now
  | requestPayout | adminApprovePayout | companyApprovePayout | initiateTransfer | transferJob
  | transferJobFailed | webhook => exact hother rfl

end steps

section approvals
variable {r : Review} {contract : FinancingContract} {m : KycMoment} {db db' : Database}

theorem KeepsEarnings.of_eq (hpayments : db'.payments = db.payments)
    (hinstallments : db'.installments = db.installments) (husers : db'.users = db.users)
    (hproducts : db'.products = db.products)
    (hcontracts : ∀ k c, db.financingContracts.find? k = some c → c.userId.isSome = true →
      (db'.financingContracts.find? k).map FinancingContract.links = some c.links) :
    KeepsEarnings db db' where
  payments k p hp := by rw [hpayments, hp, Option.map_some]
  installments k i hi := by rw [hinstallments, hi, Option.map_some]
  contracts := hcontracts
  users k u hu := by rwa [husers]
  products := hproducts

/-- What an application that is not approved turns into is no business of the others. -/
theorem find?_updateApplication_of_approved {id k : String} {f : KycApplication → KycApplication}
    (hf : ∀ a, (f a).kycApplicationId = a.kycApplicationId) {a : KycApplication}
    (hopen : ∀ a ∈ db.kycApplications.find? id, a.status ≠ .approved)
    (ha : db.kycApplications.find? k = some a) (hstatus : a.status = .approved) :
    (db.kycApplications.update id f hf).find? k = some a := by
  rw [Table.find?_update, if_neg ?_, ha]
  rintro rfl
  exact hopen a ha hstatus

theorem Database.Referred.signs (h : db.Referred) {id : String}
    (f : KycApplication → KycApplication) (hf : ∀ a, (f a).kycApplicationId = a.kycApplicationId)
    (hopen : ∀ a ∈ db.kycApplications.find? id, a.status ≠ .approved) (entry : KycAuditTrail) :
    (KycService.auditKyc entry (KycService.updateApplication id f hf db)).Referred := by
  refine h.keeps (.of_eq rfl rfl rfl rfl fun k c hc _ => ?_) ⟨fun k a ha hstatus => ?_,
    fun c hc howned => .inl ⟨c, hc, howned, rfl⟩⟩ (.of_eq rfl)
  · exact congrArg (Option.map FinancingContract.links) hc
  · exact find?_updateApplication_of_approved hf hopen ha hstatus

/-- The contract that is activated had no customer, its application not being approved. -/
theorem Database.Referred.activates (h : db.Referred)
    (hact : KycService.Activates r contract m db db')
    (hfound : KycService.contractOf r.application.kycApplicationId db = some contract)
    {application : KycApplication}
    (happlication : db.kycApplications.find? r.application.kycApplicationId = some application)
    (hopen : application.status ≠ .approved) : db'.Referred := by
  obtain ⟨hcontract, hown⟩ := KycService.contractOf_eq_some hfound
  obtain ⟨referrals, assets, hdb⟩ := hact.elsewhere
  have hfresh : contract.userId.isSome ≠ true := by
    intro howned
    obtain ⟨a, ha, hstatus⟩ := h.approved contract hcontract howned
    rw [hown, happlication] at ha
    obtain rfl := Option.some.inj ha
    exact hopen hstatus
  have hkept : KeepsEarnings db db' := by
    refine ⟨fun k p hp => ?_, fun k i hi => ?_, fun k c hc howned => ?_,
      fun k u hu => Table.find?_of_create hact.users hu, by rw [hdb]⟩
    · rw [hdb, hp, Option.map_some]
    · obtain ⟨schedule, -, hrows, -⟩ := hact.installments
      have hfind : db'.installments.find? k = some i := by
        refine Table.find?_eq_some_iff.mpr ⟨?_, Table.find?_key hi⟩
        rw [hrows]
        exact List.mem_append_left _ (Table.mem_of_find? hi)
      rw [hfind, Option.map_some]
    · rw [find?_contract_activates k hact, if_neg ?_, hc, Option.map_some]
      intro hid
      have hsame : c = contract := Table.key_injective (Table.mem_of_find? hc) hcontract
        ((Table.find?_key hc).trans hid)
      exact hfresh (hsame ▸ howned)
  refine h.keeps hkept ⟨fun k a ha hstatus => ?_, fun c' hc' howned => ?_⟩ (.of_eq (by rw [hdb]))
  · rw [hact.applications]
    refine find?_updateApplication_of_approved (f := KycService.approvedApplication m.userId)
      (fun _ => rfl) (fun b hb => ?_) ha hstatus
    obtain rfl := Option.some.inj (happlication.symm.trans hb)
    exact hopen
  · rw [hact.contracts] at hc'
    rcases Table.mem_update_iff.mp hc' with ⟨hc', -⟩ | ⟨c, hc, hid, rfl⟩
    · exact .inl ⟨c', hc', howned, rfl⟩
    · have hsame : c = contract := Table.key_injective hc hcontract hid
      refine .inr ⟨KycService.approvedApplication m.userId application, ?_, rfl⟩
      change db'.kycApplications.find? c.kycApplicationId = _
      rw [hsame, hown, hact.applications]
      refine (Table.find?_update _ _ _ _ _).trans ?_
      rw [if_pos rfl, happlication, Option.map_some]

theorem KycApplicationStatus.claimable_ne (r : Review) : r.claimable ≠ .approved := by
  rw [Review.claimable]
  split <;> exact KycApplicationStatus.noConfusion

theorem Database.Referred.approve (h : db.Referred) (applicationId reviewerId : String)
    (m : KycMoment) : Database.Referred
      ((ReceivableStep.approveApplication applicationId reviewerId m).apply db) := by
  refine committed_rule (P := Database.Referred) h fun result hcall => ?_
  obtain ⟨r, signature, hloaded, -, hassert, hcommit⟩ := KycService.approveApplication_eq_ok hcall
  have hid := Table.find?_key hloaded.application
  have hopen (hstatus : r.application.status ≠ .approved) :
      ∀ a ∈ db.kycApplications.find? r.application.kycApplicationId, a.status ≠ .approved := by
    intro a ha
    rw [hid, hloaded.application] at ha
    obtain rfl := Option.some.inj ha
    exact hstatus
  cases signature with
  | marketer =>
    have hpending : r.application.status = .pending := by
      by_contra hne
      simp [KycService.assertApprovable, hne] at hassert
    cases hcommit
    exact h.signs (KycService.marketerSigned m.now) (fun _ => rfl)
      (hopen (by rw [hpending]; exact KycApplicationStatus.noConfusion)) _
  | admin =>
    have hclaimable := (KycService.assertApprovable_admin hassert).1
    have hne : r.application.status ≠ .approved := by
      rw [hclaimable]
      exact KycApplicationStatus.claimable_ne r
    have hsigned : (KycService.signAsAdmin r m db).Referred :=
      h.signs (KycService.adminSigned r.requiresMarketerApproval m.now)
        (KycService.adminSigned_kycApplicationId r.requiresMarketerApproval m.now) (hopen hne) _
    obtain ⟨application, happlication, ⟨-, rfl⟩ | ⟨-, contract, hfound, hact, -⟩⟩ :=
      KycService.recordAdminApproval_eq_ok hcommit
    · exact hsigned
    · have hafter := KycService.find?_signAsAdmin r m db
      rw [happlication, Option.map_some] at hafter
      refine hsigned.activates hact hfound hafter ?_
      rw [KycService.adminSigned_status]
      exact hopen hne application happlication

theorem Database.Referred.reject (h : db.Referred) (applicationId adminId reason : String)
    (m : KycMoment) : Database.Referred
      ((PortfolioStep.rejectApplication applicationId adminId reason m).apply db) := by
  refine committed_rule (P := Database.Referred) h fun result hcall => ?_
  obtain ⟨admin, loaded, -, -, hloaded, hundecided, -, rfl⟩ :=
    KycService.rejectApplication_eq_ok hcall
  obtain ⟨application, happlication, hof⟩ := Option.map_eq_some_iff.mp hloaded
  obtain rfl : application = loaded.application := by rw [← hof]
  refine h.keeps (.of_eq rfl rfl rfl rfl fun k c hc _ => ?_) ⟨fun k a ha hstatus => ?_,
    fun c' hc' howned => .inl ?_⟩ (.of_eq rfl)
  · refine (Table.find?_updateMany_map (f := KycService.rejectedContract m.now)
      db.financingContracts _ k (fun _ => rfl) fun _ => rfl).trans ?_
    rw [hc, Option.map_some]
  · refine find?_updateApplication_of_approved (f := KycService.rejectedApplication reason)
      (fun _ => rfl) (fun b hb hb' => ?_) ha hstatus
    rw [Table.find?_key happlication] at hb
    obtain rfl := Option.some.inj (happlication.symm.trans hb)
    rw [KycService.undecided, hb'] at hundecided
    cases hundecided
  · have hc' : c' ∈ (db.financingContracts.updateMany
        (fun c => c.kycApplicationId = loaded.application.kycApplicationId)
        (KycService.rejectedContract m.now) fun _ => rfl).rows := hc'
    rcases Table.mem_updateMany.mp hc' with ⟨hc, -⟩ | ⟨c, hc, -, rfl⟩
    · exact ⟨c', hc, howned, rfl⟩
    · exact ⟨c, hc, howned, rfl⟩

theorem Database.Referred.submit (h : db.Referred) (storage : Storage) (sessionId : String)
    (params : SubmitApplication) (file : UploadedPdfFile) (m : KycMoment) : Database.Referred
      ((PortfolioStep.submitApplication storage sessionId params file m).apply db) := by
  refine committed_rule (P := Database.Referred) h fun result hcall => ?_
  obtain ⟨session, plan, variant, applications, contracts, assets, trail, -, -, -, happlication,
    hcontract, -, hdb⟩ := KycService.submitApplication_eq_ok hcall
  rw [hdb]
  refine h.keeps (.of_eq rfl rfl rfl rfl fun k c hc _ => ?_)
    ⟨fun k a ha _ => Table.find?_of_create happlication ha, fun c' hc' howned => .inl ?_⟩
    (.of_eq rfl)
  · rw [Table.find?_of_create hcontract hc, Option.map_some]
  · have hc' : c' ∈ contracts.rows := hc'
    rw [(Table.create_eq_some hcontract).2, List.mem_append, List.mem_singleton] at hc'
    rcases hc' with hc' | rfl
    · exact ⟨c', hc', howned, rfl⟩
    · cases howned

theorem EarningStep.referred (h : db.Referred) (e : EarningStep) : (e.apply db).Referred := by
  cases e with
  | portfolio e =>
    cases e with
    | submitApplication storage sessionId params file m =>
      exact h.submit storage sessionId params file m
    | rejectApplication applicationId adminId reason m =>
      exact h.reject applicationId adminId reason m
    | receivable e =>
      cases e with
      | approveApplication applicationId reviewerId m => exact h.approve applicationId reviewerId m
      | processPayment verifyPaystack job paymentId commissionId now =>
        exact h.processPayment verifyPaystack job paymentId commissionId now
      | operation op => exact h.operation op
  | payout op => exact h.payout op

end approvals

/-- A sale of one marketer, who has signed its application -/
def referredSale : Database :=
  { twoContracts with
    users := ⟨[{ userId := "chief", role := .company, companyId := some "firm" },
      { userId := "mo", role := .marketer, companyId := some "firm"
        createdById := some "chief" }], by decide⟩
    products := ⟨[{ productId := "oven", companyId := some "firm", commissionRate := 10 }],
      List.nodup_singleton _⟩
    onboardingSessions := ⟨[{ sessionId := "ses", name := "Bo", email := "bo@x.y"
                              passwordHash := "h", marketerId := some "mo"
                              companyId := some "firm"
                              status := .kycSubmitted, expiresAt := 9 }], List.nodup_singleton _⟩
    kycApplications := ⟨[{ kycApplicationId := "app", onboardingSessionId := some "ses"
                           productId := "oven", marketerApproved := true
                           status := .approvalProcessing }], List.nodup_singleton _⟩
    financingContracts := ⟨[{ contractId := "new", userId := none, productId := "oven"
                              kycApplicationId := "app", approvedDurationMonths := 2
                              totalFinanced := 100, status := .pendingActivation }],
      List.nodup_singleton _⟩ }

end InstalFlow
