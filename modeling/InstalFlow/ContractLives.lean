import InstalFlow.ContractPayOff
import InstalFlow.ProgressFigures

/-!
# The life of a contract

A contract has no installments until its application gets the last approval. From then on it is
the customer's who came with the application, whatever is paid, moved, restructured or written
off: what can stand in the way of its payments is its own status and its own rows.
-/

namespace InstalFlow
open Relational Transition

/-- The columns of a contract by which its payer is found -/
def FinancingContract.links (c : FinancingContract) : Option String × String × String :=
  (c.userId, c.kycApplicationId, c.productId)

/-- What the schema and the registration promise of the stored rows -/
structure WellLinked (db : Database) : Prop where
  sequences : DistinctSequences db
  applications : (db.financingContracts.rows.map FinancingContract.kycApplicationId).Nodup
  contractProducts : ∀ c ∈ db.financingContracts.rows, (db.products.find? c.productId).isSome = true
  applicationProducts : ∀ a ∈ db.kycApplications.rows, (db.products.find? a.productId).isSome = true
  emails : ∀ s ∈ db.onboardingSessions.rows, isBlank s.email = false

instance (db : Database) : Decidable (WellLinked db) :=
  decidable_of_iff (DistinctSequences db ∧
    (db.financingContracts.rows.map FinancingContract.kycApplicationId).Nodup ∧
    (∀ c ∈ db.financingContracts.rows, (db.products.find? c.productId).isSome = true) ∧
    (∀ a ∈ db.kycApplications.rows, (db.products.find? a.productId).isSome = true) ∧
    ∀ s ∈ db.onboardingSessions.rows, isBlank s.email = false)
    ⟨fun h => ⟨h.1, h.2.1, h.2.2.1, h.2.2.2.1, h.2.2.2.2⟩,
      fun h => ⟨h.sequences, h.applications, h.contractProducts, h.applicationProducts, h.emails⟩⟩

/-- Once it is activated, the contract has a customer who can be asked for its payments. -/
structure LivesAs (contractId : String) (db : Database) : Prop where
  links : WellLinked db
  unscheduled : ∀ c ∈ db.financingContracts.find? contractId, c.status = .pendingActivation →
    rowTerms contractId db = []
  payable : ∀ c ∈ db.financingContracts.find? contractId, c.status ≠ .pendingActivation →
    ∃ customer, PayableBy c customer db

section sequences
variable {db : Database}

theorem DistinctSequences.stores {id : String} {db' : Database} (h : StoresSchedule id db db')
    (hdistinct : DistinctSequences db) : DistinctSequences db' := by
  obtain ⟨new, hrows, hnew, hsequences, -, hfree⟩ := h.rows
  exact hdistinct.append hrows (fun n hn => (hnew n hn).1) hsequences hfree

theorem DistinctSequences.voidInstallments (h : DistinctSequences db) (id : String) :
    DistinctSequences (FinancingService.voidInstallments id db) :=
  h.updateMany (f := FinancingService.voidedRow) (fun _ => rfl) ⟨fun _ => rfl, fun _ => rfl⟩ rfl

/-- Behind what is there, a restructuring numbers each row otherwise. -/
theorem DistinctSequences.restructures (h : DistinctSequences db) {offset : ℕ}
    {id adminUserId : String} {terms : RestructureTerms} {o : OwnedContract}
    {schedule : List InstallmentCreateInput} {installmentId : ℕ → String} {now : DateTime}
    {db' : Database} (hr : FinancingService.Restructures offset id adminUserId terms o schedule
      installmentId now db db') : DistinctSequences db' := by
  have hnew : ∀ n ∈ (FinancingService.numberedAfter offset schedule).map fun row =>
      row.row (installmentId row.sequence), n.financingContractId = id :=
    fun n hn => (restructured_rows hr hn).1.1
  refine (h.voidInstallments id).append hr.closes.installments hnew
    (fun n hn m hm hsequence => ?_) fun n hn i hi hown => ?_
  · obtain ⟨row, hrow, rfl⟩ := List.mem_map.mp hn
    obtain ⟨row', hrow', rfl⟩ := List.mem_map.mp hm
    obtain ⟨before, hbefore, rfl⟩ := List.mem_map.mp hrow
    obtain ⟨before', hbefore', rfl⟩ := List.mem_map.mp hrow'
    obtain ⟨k, -, rfl⟩ := (InstallmentService.mem_schedule hr.scheduled).mp hbefore
    obtain ⟨k', -, rfl⟩ := (InstallmentService.mem_schedule hr.scheduled).mp hbefore'
    have hsequence : offset + (k + 1) = offset + (k' + 1) := hsequence
    obtain rfl : k = k' := by omega
    rfl
  · have hn' := hnew n hn
    obtain ⟨row, hrow, rfl⟩ := List.mem_map.mp hn
    exact InstallmentService.sequenceTaken_eq_false_iff.mp (hr.free row hrow) i hi
      (hown.trans hn'.symm)

theorem DistinctSequences.apply (h : DistinctSequences db) (e : ReceivableStep) :
    DistinctSequences (e.apply db) := by
  have hsource (hfrom : e.FromSource) : DistinctSequences (e.apply db) := by
    rcases (SourceStep.mk e hfrom).installments_cases db with hsame | ⟨p, f, hid, hf, -, hrows⟩ |
      ⟨id, hstores⟩ | ⟨id, -, hstores⟩ | ⟨id, companyUserId, reason, now, -, -, hrows⟩
    · have hsame : (e.apply db).installments = db.installments := hsame
      rw [DistinctSequences, hsame]
      exact h
    · exact h.updateMany hid hf hrows
    · exact h.stores hstores
    · exact (h.voidInstallments id).stores hstores
    · have hrows : (e.apply db).installments =
          (FinancingService.voidInstallments id db).installments := hrows
      rw [DistinctSequences, hrows]
      exact h.voidInstallments id
  cases e with
  | approveApplication applicationId reviewerId m => exact hsource trivial
  | processPayment verifyPaystack job paymentId commissionId now => exact hsource trivial
  | operation op =>
    cases op with
    | pendingToDue now => exact hsource trivial
    | dueToOverdue now => exact hsource trivial
    | markDefaulted id late => exact hsource trivial
    | writeOff id companyUserId reason now => exact hsource trivial
    | restructure offset id adminUserId newTerms installmentId now =>
      refine committed_rule (P := DistinctSequences) h fun result hcall => ?_
      obtain ⟨terms, o, schedule, -, hr⟩ := FinancingService.restructureContract_eq_ok hcall
      exact h.restructures hr

end sequences

/-- What a step that approves nothing leaves of the records -/
structure KeepsOwners (db db' : Database) : Prop where
  users : db'.users = db.users
  products : db'.products = db.products
  applications : db'.kycApplications = db.kycApplications
  sessions : db'.onboardingSessions = db.onboardingSessions
  contracts : ∃ id f hf, (∀ c, FinancingContract.links (f c) = c.links) ∧
    db'.financingContracts = db.financingContracts.update id f hf

section owners
variable {contractId : String} {c c' : FinancingContract} {customer : User} {db db' : Database}

theorem KeepsOwners.of_same (husers : db'.users = db.users) (hproducts : db'.products = db.products)
    (happlications : db'.kycApplications = db.kycApplications)
    (hsessions : db'.onboardingSessions = db.onboardingSessions)
    (hcontracts : db'.financingContracts = db.financingContracts) : KeepsOwners db db' := by
  refine ⟨husers, hproducts, happlications, hsessions, "", fun c => c, fun _ => rfl, fun _ => rfl, ?_⟩
  rw [hcontracts]
  exact (Table.update_eq_of_id fun _ => rfl).symm

theorem KeepsOwners.payment (verifyPaystack : String → Except String Verification)
    (job : PaymentJobData) (paymentId commissionId : String) (now : DateTime) (db : Database) :
    KeepsOwners db ((ReceivableStep.processPayment verifyPaystack job paymentId commissionId
      now).apply db) := by
  rcases processPayment_cases verifyPaystack job paymentId commissionId now db with
    ⟨-, intents, hdb⟩ | ⟨i, -, -, -, hcommits⟩
  · rw [hdb]
    exact .of_same rfl rfl rfl rfl rfl
  · obtain ⟨payments, commissions, ledger, intents, hdb⟩ := hcommits.frame
    rw [hdb]
    have hcontracts : PaymentWorker.contractsAfter i now db = db.financingContracts ∨
        PaymentWorker.contractsAfter i now db =
          (PaymentWorker.completeContract i.contract.contractId now db).financingContracts := by
      rw [PaymentWorker.contractsAfter]
      split
      · exact .inr rfl
      · exact .inl rfl
    rcases hcontracts with hsame | hcompleted
    · exact .of_same rfl rfl rfl rfl hsame
    · exact ⟨rfl, rfl, rfl, rfl, i.contract.contractId,
        fun c => { c with status := .completed, completedAt := some now }, fun _ => rfl,
        fun _ => rfl, hcompleted⟩

theorem KeepsOwners.closes {id : String} {f : FinancingContract → FinancingContract}
    {rows : List Installment} {posting : LedgerTransaction}
    (h : FinancingService.Closes id f rows posting db db') (hf : ∀ c, (f c).links = c.links) :
    KeepsOwners db db' := by
  obtain ⟨hid, hcontracts⟩ := h.contracts
  have hdb := h.elsewhere
  exact ⟨by rw [hdb], by rw [hdb], by rw [hdb], by rw [hdb], id, f, hid, hf, hcontracts⟩

theorem KeepsOwners.operation (op : ContractOperation) (db : Database) :
    KeepsOwners db (op.apply db) := by
  cases op with
  | pendingToDue now => exact .of_same rfl rfl rfl rfl rfl
  | dueToOverdue now => exact .of_same rfl rfl rfl rfl rfl
  | markDefaulted id late =>
    rw [ContractOperation.apply, InstalFlow.markDefaulted]
    split
    · exact ⟨rfl, rfl, rfl, rfl, id, defaultedContract, fun _ => rfl, fun _ => rfl, rfl⟩
    · exact .of_same rfl rfl rfl rfl rfl
  | restructure offset id adminUserId newTerms installmentId now =>
    refine committed_rule (P := KeepsOwners db) (.of_same rfl rfl rfl rfl rfl) fun result hcall => ?_
    obtain ⟨terms, o, schedule, -, hr⟩ := FinancingService.restructureContract_eq_ok hcall
    exact .closes hr.closes fun _ => rfl
  | writeOff id companyUserId reason now =>
    refine committed_rule (P := KeepsOwners db) (.of_same rfl rfl rfl rfl rfl) fun result hcall => ?_
    obtain ⟨o, -, hcloses⟩ := FinancingService.writeOffContract_eq_ok hcall
    exact .closes hcloses fun _ => rfl

theorem PayableBy.keeps (h : PayableBy c customer db) (hk : KeepsOwners db db')
    (hlinks : c'.links = c.links) : PayableBy c' customer db' := by
  obtain ⟨huser, hlinks⟩ := Prod.mk.inj hlinks
  obtain ⟨happlication, hproduct⟩ := Prod.mk.inj hlinks
  refine ⟨huser.trans h.userId, by rw [hk.users, h.user], h.email, ?_, ?_⟩
  · rw [happlication, hk.applications, hk.products]
    exact h.application
  · rw [hproduct, hk.products, h.product]

theorem WellLinked.keeps (h : WellLinked db) (hk : KeepsOwners db db')
    (hsequences : DistinctSequences db') : WellLinked db' := by
  obtain ⟨id, f, hf, hlinks, hcontracts⟩ := hk.contracts
  have hproduct (c : FinancingContract) : (f c).productId = c.productId :=
    congrArg (fun links => links.2.2) (hlinks c)
  refine ⟨hsequences, ?_, fun c hc => ?_, ?_, ?_⟩
  · rw [hcontracts, Table.map_rows_update db.financingContracts id hf fun c =>
      congrArg (fun links => links.2.1) (hlinks c)]
    exact h.applications
  · rw [hcontracts] at hc
    rw [hk.products]
    rcases Table.mem_update hc with hc | ⟨d, hd, rfl⟩
    · exact h.contractProducts c hc
    · rw [hproduct]
      exact h.contractProducts d hd
  · rw [hk.applications, hk.products]
    exact h.applicationProducts
  · rw [hk.sessions]
    exact h.emails

/-- A contract that is activated before and afterwards has its customer still. -/
theorem LivesAs.keeps (h : LivesAs contractId db) (hk : KeepsOwners db db')
    (hsequences : DistinctSequences db')
    (hstatus : ∀ c ∈ db.financingContracts.find? contractId,
      ∀ c' ∈ db'.financingContracts.find? contractId,
        (c'.status = .pendingActivation → c.status = .pendingActivation ∧
          rowTerms contractId db' = rowTerms contractId db) ∧
        (c'.status ≠ .pendingActivation → c.status ≠ .pendingActivation)) :
    LivesAs contractId db' := by
  obtain ⟨id, f, hf, hlinks, hcontracts⟩ := hk.contracts
  have hbefore : ∀ c' ∈ db'.financingContracts.find? contractId,
      ∃ c ∈ db.financingContracts.find? contractId, c'.links = c.links := by
    intro c' hc'
    have hfind := Table.find?_update db.financingContracts id contractId f hf
    rw [← hcontracts, hc'] at hfind
    split at hfind
    · obtain ⟨c, hc, rfl⟩ := Option.map_eq_some_iff.mp hfind.symm
      exact ⟨c, hc, hlinks c⟩
    · exact ⟨c', hfind.symm, rfl⟩
  refine ⟨h.links.keeps hk hsequences, fun c' hc' hpending => ?_, fun c' hc' hactive => ?_⟩
  · obtain ⟨c, hc, -⟩ := hbefore c' hc'
    obtain ⟨hpending, hterms⟩ := (hstatus c hc c' hc').1 hpending
    exact hterms.trans (h.unscheduled c hc hpending)
  · obtain ⟨c, hc, hsame⟩ := hbefore c' hc'
    obtain ⟨customer, hpayer⟩ := h.payable c hc ((hstatus c hc c' hc').2 hactive)
    exact ⟨customer, hpayer.keeps hk hsame⟩

theorem LivesAs.of_sameTerms (h : LivesAs contractId db) (hk : KeepsOwners db db')
    (hsequences : DistinctSequences db') (hterms : PaidOrOwed.SameTerms contractId db db') :
    LivesAs contractId db' := by
  refine h.keeps hk hsequences fun c hc c' hc' => ?_
  obtain ⟨d, hd, -, hstatus⟩ := hterms.2 c' hc'
  obtain rfl := Option.some.inj (hc.symm.trans hd)
  rcases hstatus with hsame | ⟨hbefore, hafter, -⟩
  · exact ⟨fun hpending => ⟨hsame ▸ hpending, hterms.1⟩, fun hactive => hsame ▸ hactive⟩
  · exact ⟨fun hpending => absurd hpending hafter, fun _ => hbefore⟩

end owners

section approvals
variable {contractId : String} {r : Review} {contract : FinancingContract} {m : KycMoment}
  {application : KycApplication} {db db' : Database}

/-- A signature is no business of the contract. -/
theorem LivesAs.signs (h : LivesAs contractId db) {id : String} (f : KycApplication → KycApplication)
    (hf : ∀ a, (f a).kycApplicationId = a.kycApplicationId)
    (hkeeps : ∀ a, (f a).userId = a.userId ∧ (f a).productId = a.productId)
    (entry : KycAuditTrail) :
    LivesAs contractId (KycService.auditKyc entry (KycService.updateApplication id f hf db)) := by
  refine ⟨⟨h.links.sequences, h.links.applications, h.links.contractProducts, fun a ha => ?_,
    h.links.emails⟩, h.unscheduled, fun c hc hactive => ?_⟩
  · have ha : a ∈ (db.kycApplications.update id f hf).rows := ha
    rcases Table.mem_update ha with ha | ⟨b, hb, rfl⟩
    · exact h.links.applicationProducts a ha
    · change (db.products.find? (f b).productId).isSome = true
      rw [(hkeeps b).2]
      exact h.links.applicationProducts b hb
  · obtain ⟨customer, hpayer⟩ := h.payable c hc hactive
    obtain ⟨a, ha, hown, hproduct⟩ := hpayer.application
    have ha : db.kycApplications.find? c.kycApplicationId = some a := ha
    have hfind := Table.find?_update db.kycApplications id c.kycApplicationId f hf
    rw [ha] at hfind
    refine ⟨customer, hpayer.userId, hpayer.user, hpayer.email, ?_, hpayer.product⟩
    split at hfind
    · exact ⟨f a, hfind, by rw [(hkeeps a).1, hown], by rw [(hkeeps a).2]; exact hproduct⟩
    · exact ⟨a, hfind, hown, hproduct⟩

theorem WellLinked.activates (h : WellLinked db) (hact : KycService.Activates r contract m db db')
    (hsequences : DistinctSequences db') : WellLinked db' := by
  obtain ⟨referrals, assets, hdb⟩ := hact.elsewhere
  have hproducts : db'.products = db.products := by rw [hdb]
  refine ⟨hsequences, ?_, fun c hc => ?_, fun a ha => ?_, fun s hs => ?_⟩
  · have hsame := Table.map_rows_update (g := FinancingContract.kycApplicationId)
      db.financingContracts contract.contractId (f := KycService.activatedContract m.userId m.now)
      (fun _ => rfl) fun _ => rfl
    rw [hact.contracts, hsame]
    exact h.applications
  · rw [hact.contracts] at hc
    rw [hproducts]
    rcases Table.mem_update hc with hc | ⟨d, hd, rfl⟩
    · exact h.contractProducts c hc
    · exact h.contractProducts d hd
  · rw [hact.applications] at ha
    rw [hproducts]
    rcases Table.mem_update ha with ha | ⟨b, hb, rfl⟩
    · exact h.applicationProducts a ha
    · exact h.applicationProducts b hb
  · rw [hact.sessions] at hs
    rcases Table.mem_update hs with hs | ⟨t, ht, rfl⟩
    · exact h.emails s hs
    · exact h.emails t ht

/-- The person who applied becomes the customer of the contract. -/
theorem payableBy_activates (h : WellLinked db) (hact : KycService.Activates r contract m db db')
    (hfound : KycService.contractOf r.application.kycApplicationId db = some contract)
    (happlication : db.kycApplications.find? r.application.kycApplicationId = some application)
    (hemail : isBlank r.session.email = false) :
    PayableBy (KycService.activatedContract m.userId m.now contract)
      (KycService.newUser r.session m.userId) db' := by
  obtain ⟨hcontract, hown⟩ := KycService.contractOf_eq_some hfound
  obtain ⟨referrals, assets, hdb⟩ := hact.elsewhere
  have hproducts : db'.products = db.products := by rw [hdb]
  refine ⟨rfl, ?_, hemail, ⟨KycService.approvedApplication m.userId application, ?_, rfl, ?_⟩, ?_⟩
  · rw [Table.find?_create hact.users]
    exact if_pos rfl
  · change db'.kycApplications.find? contract.kycApplicationId = _
    have hfind := Table.find?_update db.kycApplications r.application.kycApplicationId
      r.application.kycApplicationId (KycService.approvedApplication m.userId) fun _ => rfl
    rw [if_pos rfl, happlication] at hfind
    rw [hact.applications, hown]
    exact hfind
  · rw [hproducts]
    exact h.applicationProducts application (Table.mem_of_find? happlication)
  · rw [hproducts]
    exact h.contractProducts contract hcontract

theorem LivesAs.activates (h : LivesAs contractId (KycService.signAsAdmin r m db))
    (hact : KycService.Activates r contract m (KycService.signAsAdmin r m db) db')
    (hfound : KycService.contractOf r.application.kycApplicationId db = some contract)
    (happlication : (KycService.signAsAdmin r m db).kycApplications.find?
      r.application.kycApplicationId = some application)
    (hemail : isBlank r.session.email = false) (hsequences : DistinctSequences db') :
    LivesAs contractId db' := by
  have hfind := find?_contract_activates contractId hact
  have hfound' : KycService.contractOf r.application.kycApplicationId
    (KycService.signAsAdmin r m db) = some contract := hfound
  obtain ⟨hcontract, hown⟩ := KycService.contractOf_eq_some hfound'
  refine ⟨h.links.activates hact hsequences, fun c hc hpending => ?_, fun c hc hactive => ?_⟩
  · by_cases hid : contractId = contract.contractId
    · rw [if_pos hid, hc, eq_comm, Option.map_eq_some_iff] at hfind
      obtain ⟨d, -, rfl⟩ := hfind
      cases hpending
    · rw [if_neg hid] at hfind
      obtain ⟨schedule, -, -, -, hterms⟩ := rowTerms_activates (s := ⟨db, 0⟩) contractId hact
      rw [if_neg fun he => hid he.symm, List.append_nil] at hterms
      exact hterms.trans (h.unscheduled c (hfind.symm.trans hc) hpending)
  · by_cases hid : contractId = contract.contractId
    · subst hid
      rw [if_pos rfl, Table.find?_of_mem hcontract] at hfind
      obtain rfl := Option.some.inj (hfind.symm.trans hc)
      exact ⟨_, payableBy_activates h.links hact hfound' happlication hemail⟩
    · rw [if_neg hid] at hfind
      have hc : (KycService.signAsAdmin r m db).financingContracts.find? contractId = some c :=
        hfind.symm.trans hc
      obtain ⟨customer, hpayer⟩ := h.payable c hc hactive
      obtain ⟨referrals, assets, hdb⟩ := hact.elsewhere
      have hproducts : db'.products = (KycService.signAsAdmin r m db).products := by rw [hdb]
      -- another contract is for another application
      have hother : c.kycApplicationId ≠ r.application.kycApplicationId := by
        intro he
        have hsame : c = contract := List.inj_on_of_nodup_map h.links.applications
          (Table.mem_of_find? hc) hcontract (he.trans hown.symm)
        exact hid ((Table.find?_key hc).symm.trans (congrArg _ hsame))
      refine ⟨customer, hpayer.userId, Table.find?_of_create hact.users hpayer.user, hpayer.email,
        ?_, by rw [hproducts, hpayer.product]⟩
      obtain ⟨a, ha, hpayer⟩ := hpayer.application
      refine ⟨a, ?_, by rwa [hproducts]⟩
      rw [hact.applications]
      exact (Table.find?_update _ _ _ _ _).trans ((if_neg hother).trans ha)

theorem adminSigned_keeps (requiresMarketerApproval : Bool) (now : DateTime) (a : KycApplication) :
    (KycService.adminSigned requiresMarketerApproval now a).userId = a.userId ∧
      (KycService.adminSigned requiresMarketerApproval now a).productId = a.productId := by
  rw [KycService.adminSigned]
  split <;> exact ⟨rfl, rfl⟩

theorem LivesAs.approve (h : LivesAs contractId db) (applicationId reviewerId : String)
    (m : KycMoment) : LivesAs contractId
      ((ReceivableStep.approveApplication applicationId reviewerId m).apply db) := by
  have hsequences := h.links.sequences.apply (.approveApplication applicationId reviewerId m)
  rw [ReceivableStep.apply] at hsequences ⊢
  cases hcall : KycService.approveApplication applicationId reviewerId m db with
  | error err => exact h
  | ok result =>
    rw [hcall, committed_ok] at hsequences
    rw [committed_ok]
    obtain ⟨r, signature, hloaded, -, -, hcommit⟩ := KycService.approveApplication_eq_ok hcall
    cases signature with
    | marketer =>
      cases hcommit
      exact h.signs (KycService.marketerSigned m.now) (fun _ => rfl) (fun _ => ⟨rfl, rfl⟩) _
    | admin =>
      have hsigned : LivesAs contractId (KycService.signAsAdmin r m db) :=
        h.signs (KycService.adminSigned r.requiresMarketerApproval m.now)
          (KycService.adminSigned_kycApplicationId r.requiresMarketerApproval m.now)
          (adminSigned_keeps r.requiresMarketerApproval m.now) _
      obtain ⟨application, happlication, ⟨-, rfl⟩ | ⟨-, contract, hfound, hact, -⟩⟩ :=
        KycService.recordAdminApproval_eq_ok hcommit
      · exact hsigned
      · have hemail : isBlank r.session.email = false := by
          obtain ⟨id, -, hsession⟩ := Option.bind_eq_some_iff.mp hloaded.session
          exact h.links.emails r.session (Table.mem_of_find? hsession)
        have hfind := Table.find?_update db.kycApplications r.application.kycApplicationId
          r.application.kycApplicationId (KycService.adminSigned r.requiresMarketerApproval m.now)
          (KycService.adminSigned_kycApplicationId r.requiresMarketerApproval m.now)
        rw [if_pos rfl, happlication] at hfind
        exact hsigned.activates hact hfound hfind hemail hsequences

/-- A step of any contract leaves this one its life. -/
theorem LivesAs.step (h : LivesAs contractId db) (e : ReceivableStep) :
    LivesAs contractId (e.apply db) := by
  have hsequences := h.links.sequences.apply e
  cases e with
  | approveApplication applicationId reviewerId m => exact h.approve applicationId reviewerId m
  | processPayment verifyPaystack job paymentId commissionId now =>
    exact h.of_sameTerms (.payment verifyPaystack job paymentId commissionId now db) hsequences
      (PaidOrOwed.sameTerms_payment h.unscheduled verifyPaystack job paymentId commissionId now)
  | operation op =>
    have hk := KeepsOwners.operation op db
    cases op with
    | pendingToDue now =>
      exact h.of_sameTerms hk hsequences (PaidOrOwed.sameTerms_transition contractId .pending .due
        (fun dueDate => dueDate ≤ PaymentReminderWorker.todayStart now) db)
    | dueToOverdue now =>
      exact h.of_sameTerms hk hsequences (PaidOrOwed.sameTerms_transition contractId .due .overdue
        (fun dueDate => dueDate <
          PaymentReminderWorker.todayStart now - 3 * PaymentReminderWorker.dayMs) db)
    | markDefaulted id late =>
      exact h.of_sameTerms hk hsequences (PaidOrOwed.sameTerms_markDefaulted contractId id late db)
    | restructure offset id adminUserId newTerms installmentId now =>
      rw [ReceivableStep.apply, ContractOperation.apply] at hsequences ⊢
      rw [ContractOperation.apply] at hk
      cases hcall : FinancingService.restructureContract offset id adminUserId newTerms
          installmentId now db with
      | error err => exact h
      | ok result =>
        rw [hcall, committed_ok] at hk hsequences
        rw [committed_ok]
        obtain ⟨terms, o, schedule, -, hr⟩ := FinancingService.restructureContract_eq_ok hcall
        by_cases hid : id = contractId
        · subst hid
          obtain ⟨hcontract, hdefaulted⟩ := FinancingService.findForRestructure_eq_ok hr.found
          have hafter := find?_contract_closes id hr.closes
          rw [if_pos rfl, hcontract, Option.map_some] at hafter
          refine h.keeps hk hsequences fun c hc c' hc' => ?_
          obtain rfl := Option.some.inj (hcontract.symm.trans hc)
          obtain rfl := Option.some.inj (hafter.symm.trans hc')
          refine ⟨fun hpending => FinancingStatus.noConfusion hpending, fun _ => ?_⟩
          rw [hdefaulted]
          exact FinancingStatus.noConfusion
        · exact h.of_sameTerms hk hsequences (PaidOrOwed.sameTerms_closes_other hid hr.closes
            fun i hi => (restructured_rows hr hi).1.1)
    | writeOff id companyUserId reason now =>
      rw [ReceivableStep.apply, ContractOperation.apply] at hsequences ⊢
      rw [ContractOperation.apply] at hk
      cases hcall : FinancingService.writeOffContract id companyUserId reason now db with
      | error err => exact h
      | ok result =>
        rw [hcall, committed_ok] at hk hsequences
        rw [committed_ok]
        exact h.of_sameTerms hk hsequences (PaidOrOwed.sameTerms_writeOff hcall)

end approvals

section payOff
variable {contractId : String} {db : Database}

instance (rows : List Installment) (P : Installment → Prop) [DecidablePred P] :
    Decidable (SomeBehind rows P) :=
  inferInstanceAs (Decidable (∀ i ∈ rows, ∀ j ∈ rows, _ → ∃ k ∈ rows, _))

instance (contractId : String) (db : Database) : Decidable (NothingOpened contractId db) :=
  inferInstanceAs (Decidable (∀ i ∈ outstandingOf contractId db, ∀ n ∈ db.paymentIntents.rows, _ → _))

theorem LivesAs.of_new (hlinks : WellLinked db)
    (hnew : ∀ i ∈ db.installments.rows, i.financingContractId ≠ contractId)
    (hpending : ∀ c ∈ db.financingContracts.find? contractId, c.status = .pendingActivation) :
    LivesAs contractId db := by
  refine ⟨hlinks, fun c hc hstatus => ?_, fun c hc hactive => absurd (hpending c hc) hactive⟩
  refine List.eq_nil_iff_forall_not_mem.mpr fun t ht => ?_
  obtain ⟨i, hi, hown, -⟩ := mem_rowTerms.mp ht
  exact hnew i hi hown

theorem LivesAs.run (h : LivesAs contractId db) (steps : List ReceivableStep) :
    LivesAs contractId (Transition.run ReceivableStep.apply db steps) :=
  run_invariant (I := LivesAs contractId) (fun _ e h => h.step e) h steps

/-- What is outstanding belongs to a contract with a customer, and can be paid off in order. -/
theorem LivesAs.paysOff_iff (h : LivesAs contractId db) (hopen : NothingOpened contractId db)
    (hne : outstandingOf contractId db ≠ []) {c : FinancingContract}
    (hc : db.financingContracts.find? contractId = some c) : ∃ customerId ∈ c.userId,
      (PaysOff contractId customerId db ↔ CollectsInOrder contractId c db) := by
  obtain ⟨i, hi⟩ := List.exists_mem_of_ne_nil _ hne
  have hactive : c.status ≠ .pendingActivation := by
    intro hpending
    obtain ⟨hmem, hown, -⟩ := InstallmentService.mem_unpaidOf.mp (mem_outstandingOf.mp hi).1
    have hterm := mem_rowTerms.mpr ⟨i, hmem, hown, rfl⟩
    rw [h.unscheduled c hc hpending] at hterm
    exact absurd hterm List.not_mem_nil
  obtain ⟨customer, hpayer⟩ := h.payable c hc hactive
  refine ⟨customer.userId, hpayer.userId, fun hpays => ?_, fun hcollects => ?_⟩
  · exact hpays.collectsInOrder hne hopen hc hpayer h.links.sequences
  · exact hcollects.paysOff hne hc hpayer h.links.sequences

theorem LivesAs.collectsInOrder {customerId : String} (h : LivesAs contractId db)
    (hopen : NothingOpened contractId db) (hne : outstandingOf contractId db ≠ [])
    (hcustomer : (db.financingContracts.find? contractId).map FinancingContract.userId =
      some (some customerId)) (hpays : PaysOff contractId customerId db) :
    ∃ c ∈ db.financingContracts.find? contractId, CollectsInOrder contractId c db := by
  obtain ⟨c, hc, huser⟩ := Option.map_eq_some_iff.mp hcustomer
  obtain ⟨payer, hpayer, hiff⟩ := h.paysOff_iff hopen hne hc
  obtain rfl := Option.some.inj (huser.symm.trans hpayer)
  exact ⟨c, hc, hiff.mp hpays⟩

end payOff

/-- Nothing is paid until both installments are DUE. -/
def bothDue : List ReceivableStep := [activateNew, .operation (.pendingToDue 2937600000)]

/-- Nothing is paid until staff restructure the contract, numbering behind what is there. -/
def restructuredBehind : List ReceivableStep :=
  [activateNew, .operation (.markDefaulted "new" fun _ => true),
    .operation (.restructure 2 "new" "chief" ⟨50, 2, 0⟩ (fun n => s!"new{n}") 2937600000)]

end InstalFlow
