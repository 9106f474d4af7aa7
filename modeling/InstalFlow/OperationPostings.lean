import InstalFlow.TransferPostings

/-!
# What operations post and accrue

An operation posts one transaction or none: a payment job the payment it
records, a transfer job the transfer it initiates, and a webhook the end of a
transfer. Only a payment job accrues a commission; its customer and referrer,
and whose the payouts and commissions are, stay as they are.
-/

namespace InstalFlow
open Relational Accounting LedgerService CommissionService

namespace PaymentWorker

/-- What a job that records a payment accrues and posts. -/
structure Records (i : LoadedInstallment) (reference commissionId : String)
    (db db' : Database) : Prop where
  commissions : (accrual i = none ∧ db'.commissions = db.commissions) ∨
    ∃ c, accrual i = some (c.userId, c.amount) ∧ c.commissionId = commissionId ∧
      db.commissions.create c = some db'.commissions
  ledger : recordTransaction (paymentPosting i reference) db.ledger = .ok db'.ledger

variable {i : LoadedInstallment} {now : DateTime} {db db' : Database}

theorem accrueCommission_eq_ok {paymentId commissionId : String} {record : Option Commission}
    (h : accrueCommission i paymentId commissionId now db = .ok (record, db')) :
    ∃ commissions, db' = { db with commissions } ∧
      ((accrual i = none ∧ commissions = db.commissions) ∨
        ∃ c, accrual i = some (c.userId, c.amount) ∧ c.commissionId = commissionId ∧
          db.commissions.create c = some commissions) := by
  rw [accrueCommission] at h
  split at h
  · rename_i hnone
    cases h
    exact ⟨_, rfl, .inl ⟨hnone, rfl⟩⟩
  · rename_i userId amount hsome
    simp only at h
    split at h
    · cases h
    · rename_i commissions hcreate
      cases h
      exact ⟨commissions, rfl, .inr ⟨_, hsome, rfl, createRow_eq_ok.mp hcreate⟩⟩

theorem transaction_records {intent : PaymentIntent} {v : Verification}
    {reference paymentId commissionId : String} {result : PaymentResult}
    (h : transaction i intent v reference paymentId commissionId now db = .ok (result, db')) :
    Records i reference commissionId db db' := by
  obtain ⟨⟨payment, db₁⟩, hpayment, h⟩ := bind_eq_ok.mp h
  obtain ⟨⟨record, db₂⟩, haccrue, h⟩ := bind_eq_ok.mp h
  obtain ⟨db₃, hpost, h⟩ := bind_eq_ok.mp h
  obtain ⟨db₄, hintent, h⟩ := bind_eq_ok.mp h
  obtain ⟨payments, rfl⟩ := recordPayment_frame hpayment
  obtain ⟨commissions, rfl, hcommissions⟩ := accrueCommission_eq_ok haccrue
  obtain ⟨ledger, hledger, rfl⟩ := post_eq_ok hpost
  have hdb₄ := PaymentIntentService.ignoreConflict_markSuccess hintent
  cases h
  rw [completion_eq] at hdb₄
  rw [hdb₄]
  exact ⟨hcommissions, hledger⟩

/-- The installment whose payment a job records. -/
def recorded? (verifyPaystack : String → Except String Verification) (job : PaymentJobData)
    (paymentId commissionId : String) (now : DateTime) (db : Database) :
    Option LoadedInstallment :=
  match process verifyPaystack job paymentId commissionId now db with
  | .ok (.recorded _, _) => loadInstallment job.installmentId db
  | _ => none

theorem process_recorded {verifyPaystack : String → Except String Verification}
    {job : PaymentJobData} {paymentId commissionId : String} {result : PaymentJobResult}
    (h : process verifyPaystack job paymentId commissionId now db = .ok (result, db')) :
    (result = .alreadyProcessed ∧ ∃ paymentIntents, db' = { db with paymentIntents }) ∨
      ∃ recorded i, result = .recorded recorded ∧ loadInstallment job.installmentId db = some i ∧
        Records i job.reference commissionId db db' := by
  rw [process] at h
  split at h
  · cases h
  · rename_i i hi
    split at h
    · split at h
      · cases h
        exact .inl ⟨rfl, _, rfl⟩
      · split at h
        · cases h
        · rename_i hmark
          cases h
          exact .inl ⟨rfl, _, PaymentIntentService.ignoreConflict_markSuccess hmark⟩
    · split at h
      · cases h
      · split at h
        · cases h
        · split at h
          · cases h
          · split at h
            · cases h
            · rename_i htransaction
              cases h
              exact .inr ⟨_, i, rfl, hi, transaction_records htransaction⟩

end PaymentWorker

/-- What of a commission is fixed when it is accrued. -/
def Commission.terms (c : Commission) : String × String × ℚ :=
  (c.commissionId, c.userId, c.amount)

def Database.commissionTerms (db : Database) : List (String × String × ℚ) :=
  db.commissions.rows.map Commission.terms

theorem commissionTerms_setReservation (db : Database) (commissionId : String)
    (reservedAmount : ℚ) (status : CommissionStatus) :
    (db.setReservation commissionId reservedAmount status).commissionTerms = db.commissionTerms :=
  Table.map_rows_update db.commissions commissionId
    (f := fun c => { c with reservedAmount, status }) (fun _ => rfl) (fun _ => rfl)

theorem Turn.commissionTerms_foldl (t : Turn) (db : Database) (js : List JoinedAllocation) :
    (js.foldl t.body db).commissionTerms = db.commissionTerms := by
  induction js generalizing db with
  | nil => rfl
  | cons j js ih =>
    rw [List.foldl_cons, ih, t.body_eq, commissionTerms_setReservation]
    rfl

theorem commissionTerms_reservePlan {payoutId : String} {db db' : Database}
    {es : List AllocationEntry} (h : reservePlan payoutId db es = .ok db') :
    db'.commissionTerms = db.commissionTerms := by
  induction es generalizing db with
  | nil =>
    cases h
    rfl
  | cons e es ih =>
    simp only [reservePlan] at h
    split at h
    · cases h
    · rename_i db₁ he
      obtain ⟨as, -, rfl⟩ := reserveEntry_eq_ok he
      rw [ih h, commissionTerms_setReservation]
      rfl

theorem commissionTerms_startTransfer (payout : CommissionPayoutRequest)
    (bank : MarketerBankAccount) (companyUserId : String) (now : DateTime) (db : Database) :
    (startTransfer payout bank companyUserId now db).commissionTerms = db.commissionTerms := by
  have hfailed : (if payout.status = .transferFailed then reReserve payout.payoutId db
      else db).commissionTerms = db.commissionTerms := by
    split
    · exact Turn.reReserve.commissionTerms_foldl db _
    · rfl
  rw [startTransfer]
  split
  · exact hfailed
  · exact hfailed

namespace Operation

/-- The transaction that an operation posts. -/
def posting? (db : Database) : Operation → Option LedgerTransaction
  | processPayment verifyPaystack job paymentId commissionId now =>
      (PaymentWorker.recorded? verifyPaystack job paymentId commissionId now db).map fun i =>
        PaymentWorker.paymentPosting i job.reference
  | transferJob paystack payoutId =>
      (TransferWorker.initiated? paystack payoutId db).map TransferWorker.initPosting
  | webhook event payload _ => (event.target? payload db).map event.handler.posting
  | _ => none

/-- The installment whose commission an operation accrues. -/
def recorded? (db : Database) : Operation → Option LoadedInstallment
  | processPayment verifyPaystack job paymentId commissionId now =>
      PaymentWorker.recorded? verifyPaystack job paymentId commissionId now db
  | _ => none

variable {db : Database}

/-- An operation other than a payment job writes the tables of payouts. -/
theorem frame_cases (db : Database) (op : Operation) :
    (∃ verifyPaystack job paymentId commissionId now,
      op = .processPayment verifyPaystack job paymentId commissionId now) ∨
    ∃ commissions commissionAllocations commissionPayoutRequests marketerBankAccounts ledger,
      op.apply db = { db with
        commissions, commissionAllocations, commissionPayoutRequests, marketerBankAccounts
        ledger } := by
  have hcommitted {α : Type} {state : α → Database} {r : Except AppError α}
      (hr : ∀ a, r = .ok a →
        ∃ commissions commissionAllocations commissionPayoutRequests marketerBankAccounts ledger,
          state a = { db with
            commissions, commissionAllocations, commissionPayoutRequests, marketerBankAccounts
            ledger }) :
      ∃ commissions commissionAllocations commissionPayoutRequests marketerBankAccounts ledger,
        committed db state r = { db with
          commissions, commissionAllocations, commissionPayoutRequests, marketerBankAccounts
          ledger } := by
    cases r with
    | error err => exact ⟨_, _, _, _, _, rfl⟩
    | ok a => exact hr a rfl
  cases op with
  | processPayment verifyPaystack job paymentId commissionId now =>
    exact .inl ⟨_, _, _, _, _, rfl⟩
  | requestPayout userId amount payoutId now =>
    refine .inr (hcommitted fun res h => ?_)
    obtain ⟨r, role, -, -, hcreate⟩ := requestPayout_eq_ok h
    obtain ⟨-, -, payouts, -, hplan⟩ := createPayout_eq_ok hcreate
    obtain ⟨⟨cs, as, hdb⟩, -⟩ := reservePlan_frame hplan
    exact ⟨_, _, _, _, _, hdb⟩
  | adminApprovePayout payoutId adminId now =>
    refine .inr (hcommitted fun res h => ?_)
    obtain ⟨payout, -, -, rfl⟩ := adminApprovePayout_eq_ok h
    exact ⟨_, _, _, _, _, rfl⟩
  | companyApprovePayout payoutId companyUserId now =>
    refine .inr (hcommitted fun res h => ?_)
    obtain ⟨payout, -, -, rfl⟩ := companyApprovePayout_eq_ok h
    exact ⟨_, _, _, _, _, rfl⟩
  | initiateTransfer payoutId companyUserId now =>
    rcases initiateTransfer_cases db payoutId companyUserId now with
      ⟨e, -, hdb⟩ | ⟨payout, bank, -, -, -, -, hdb⟩
    · exact .inr ⟨_, _, _, _, _, hdb⟩
    · obtain ⟨cs, as, ps, hstart⟩ := startTransfer_frame payout bank companyUserId now db
      exact .inr ⟨_, _, _, _, _, hdb.trans hstart⟩
  | transferJob paystack payoutId =>
    obtain ⟨banks, hdb | ⟨code, ledger, hdb⟩⟩ := TransferWorker.process_cases paystack payoutId db
    · exact .inr ⟨_, _, _, _, _, hdb⟩
    · exact .inr ⟨_, _, _, _, _, hdb⟩
  | transferJobFailed job message now =>
    refine .inr (hcommitted fun res h => ?_)
    rcases TransferWorker.onFailed_eq_ok h with ⟨-, rfl⟩ | ⟨payout, -, -, rfl⟩
    · exact ⟨_, _, _, _, _, rfl⟩
    · exact ⟨_, _, _, _, _, rfl⟩
  | webhook event payload now =>
    rcases event.handle_cases payload now db with ⟨-, hdb⟩ | ⟨payout, ledger, -, -, -, hdb⟩
    · rw [apply, hdb]
      exact .inr ⟨_, _, _, _, _, rfl⟩
    · obtain ⟨cs, as, hframe⟩ := event.written_frame payload now
        ⟨payout, db.allocationsOf payout.payoutId⟩ db
      rw [apply, hdb, hframe]
      exact .inr ⟨_, _, _, _, _, rfl⟩

/-- The tables that no operation touches. -/
structure Keeps (db db' : Database) : Prop where
  users : db'.users = db.users
  settlements : db'.merchantSettlementRequests = db.merchantSettlementRequests

theorem keeps (db : Database) (op : Operation) : Keeps db (op.apply db) := by
  rcases frame_cases db op with
    ⟨verifyPaystack, job, paymentId, commissionId, now, rfl⟩ | ⟨cs, as, ps, banks, ledger, hdb⟩
  · refine committed_rule (P := Keeps db) ⟨rfl, rfl⟩ fun res h => ?_
    obtain ⟨i, -, ⟨-, intents, hdb⟩ | ⟨-, hcommits⟩⟩ := PaymentWorker.process_eq_ok h
    · rw [hdb]
      exact ⟨rfl, rfl⟩
    · obtain ⟨payments, commissions, ledger, intents, hdb⟩ := hcommits.frame
      rw [hdb]
      exact ⟨rfl, rfl⟩
  · rw [hdb]
    exact ⟨rfl, rfl⟩

/-- What the ledger has after a transaction was posted or not. -/
def Posted (l l' : Ledger) : Option LedgerTransaction → Prop
  | none => l' = l
  | some data => recordTransaction data l = .ok l'

theorem apply_posted (db : Database) (op : Operation) :
    Posted db.ledger (op.apply db).ledger (op.posting? db) := by
  have hcommitted {α : Type} {state : α → Database} {r : Except AppError α}
      (hr : ∀ a, r = .ok a → (state a).ledger = db.ledger) :
      (committed db state r).ledger = db.ledger :=
    committed_rule (P := fun db' => db'.ledger = db.ledger) rfl hr
  cases op with
  | processPayment verifyPaystack job paymentId commissionId now =>
    rw [posting?, PaymentWorker.recorded?, apply]
    cases hprocess : PaymentWorker.process verifyPaystack job paymentId commissionId now db with
    | error err => rfl
    | ok res =>
      rcases PaymentWorker.process_recorded hprocess with
        ⟨hresult, intents, hdb⟩ | ⟨recorded, i, hresult, hload, hrecords⟩
      · rw [committed_ok, hdb, ← Prod.mk.eta (p := res), hresult]
        rfl
      · rw [committed_ok, ← Prod.mk.eta (p := res), hresult, hload]
        exact hrecords.ledger
  | requestPayout userId amount payoutId now =>
    refine hcommitted fun res h => ?_
    obtain ⟨r, role, -, -, hcreate⟩ := requestPayout_eq_ok h
    obtain ⟨-, -, payouts, -, hplan⟩ := createPayout_eq_ok hcreate
    obtain ⟨⟨cs, as, hdb⟩, -⟩ := reservePlan_frame hplan
    rw [hdb]
  | adminApprovePayout payoutId adminId now =>
    refine hcommitted fun res h => ?_
    obtain ⟨payout, -, -, rfl⟩ := adminApprovePayout_eq_ok h
    rfl
  | companyApprovePayout payoutId companyUserId now =>
    refine hcommitted fun res h => ?_
    obtain ⟨payout, -, -, rfl⟩ := companyApprovePayout_eq_ok h
    rfl
  | initiateTransfer payoutId companyUserId now =>
    rcases initiateTransfer_cases db payoutId companyUserId now with
      ⟨e, -, hdb⟩ | ⟨payout, bank, -, -, -, -, hdb⟩
    · exact congrArg Database.ledger hdb
    · obtain ⟨cs, as, ps, hstart⟩ := startTransfer_frame payout bank companyUserId now db
      rw [hdb, hstart]
      rfl
  | transferJob paystack payoutId =>
    rw [posting?]
    cases h : TransferWorker.initiated? paystack payoutId db with
    | none => exact TransferWorker.process_not_initiated h
    | some payout => exact TransferWorker.process_initiated h
  | transferJobFailed job message now =>
    refine hcommitted fun res h => ?_
    rcases TransferWorker.onFailed_eq_ok h with ⟨-, rfl⟩ | ⟨payout, -, -, rfl⟩
    · rfl
    · rfl
  | webhook event payload now =>
    rw [posting?]
    rcases event.handle_cases payload now db with
      ⟨ht, hdb⟩ | ⟨payout, ledger, ht, -, hledger, hdb⟩
    · rw [ht, apply, hdb]
      rfl
    · rw [ht, apply, hdb]
      exact hledger

/-- The terms of the commission that an operation accrues. -/
def accrual? (db : Database) : Operation → Option (String × String × ℚ)
  | processPayment verifyPaystack job paymentId commissionId now =>
      (PaymentWorker.recorded? verifyPaystack job paymentId commissionId now db).bind fun i =>
        (PaymentWorker.accrual i).map fun a => (commissionId, a)
  | _ => none

theorem commissionTerms_apply (db : Database) (op : Operation) :
    (op.apply db).commissionTerms = db.commissionTerms ++ (op.accrual? db).toList := by
  have hcommitted {α : Type} {state : α → Database} {r : Except AppError α}
      (hr : ∀ a, r = .ok a → (state a).commissionTerms = db.commissionTerms) :
      (committed db state r).commissionTerms = db.commissionTerms ++ [] := by
    rw [List.append_nil]
    exact committed_rule (P := fun db' => db'.commissionTerms = db.commissionTerms) rfl hr
  cases op with
  | processPayment verifyPaystack job paymentId commissionId now =>
    rw [accrual?, PaymentWorker.recorded?, apply]
    cases hprocess : PaymentWorker.process verifyPaystack job paymentId commissionId now db with
    | error err => exact (List.append_nil _).symm
    | ok res =>
      rcases PaymentWorker.process_recorded hprocess with
        ⟨hresult, intents, hdb⟩ | ⟨recorded, i, hresult, hload, hrecords⟩
      · rw [committed_ok, hdb, ← Prod.mk.eta (p := res), hresult]
        exact (List.append_nil _).symm
      · rw [committed_ok, ← Prod.mk.eta (p := res), hresult, hload]
        rcases hrecords.commissions with ⟨hnone, hsame⟩ | ⟨c, haccrual, hid, hcreate⟩
        · simp [Database.commissionTerms, hnone, hsame]
        · simp [Database.commissionTerms, haccrual, (Table.create_eq_some hcreate).2,
            Commission.terms, hid]
  | requestPayout userId amount payoutId now =>
    refine hcommitted fun res h => ?_
    obtain ⟨r, role, -, -, hcreate⟩ := requestPayout_eq_ok h
    obtain ⟨-, -, payouts, -, hplan⟩ := createPayout_eq_ok hcreate
    exact (commissionTerms_reservePlan hplan).trans rfl
  | adminApprovePayout payoutId adminId now =>
    refine hcommitted fun res h => ?_
    obtain ⟨payout, -, -, rfl⟩ := adminApprovePayout_eq_ok h
    rfl
  | companyApprovePayout payoutId companyUserId now =>
    refine hcommitted fun res h => ?_
    obtain ⟨payout, -, -, rfl⟩ := companyApprovePayout_eq_ok h
    rfl
  | initiateTransfer payoutId companyUserId now =>
    refine Eq.trans ?_ (List.append_nil _).symm
    rcases initiateTransfer_cases db payoutId companyUserId now with
      ⟨e, -, hdb⟩ | ⟨payout, bank, -, -, -, -, hdb⟩
    · rw [hdb]
    · rw [hdb, commissionTerms_startTransfer]
  | transferJob paystack payoutId =>
    refine Eq.trans ?_ (List.append_nil _).symm
    obtain ⟨banks, hdb | ⟨code, ledger, hdb⟩⟩ := TransferWorker.process_cases paystack payoutId db
    · rw [apply, hdb]
      rfl
    · rw [apply, hdb]
      rfl
  | transferJobFailed job message now =>
    refine hcommitted fun res h => ?_
    rcases TransferWorker.onFailed_eq_ok h with ⟨-, rfl⟩ | ⟨payout, -, -, rfl⟩
    · rfl
    · rfl
  | webhook event payload now =>
    refine hcommitted fun res h => ?_
    rcases event.handle_cases payload now db with ⟨-, hdb⟩ | ⟨payout, ledger, -, -, -, hdb⟩
    · rw [hdb] at h
      cases h
      rfl
    · rw [hdb] at h
      cases h
      exact event.turn.commissionTerms_foldl _ _

/-- An allocation after an operation is an earlier one, perhaps of another
status, or one of the payout that was requested. -/
theorem allocation_apply (db : Database) (op : Operation) {a : CommissionAllocation}
    (ha : a ∈ (op.apply db).commissionAllocations.rows) :
    (∃ b ∈ db.commissionAllocations.rows, ∃ status, a = { b with status }) ∨
      ∃ userId amount payoutId now request, op = requestPayout userId amount payoutId now ∧
        CommissionService.requestPayout userId amount payoutId now db =
          .ok (request, op.apply db) ∧ a.payoutId = payoutId ∧
        ∃ c ∈ db.commissions.rows, c.commissionId = a.commissionId ∧ c.userId = userId := by
  have hsame (h : (op.apply db).commissionAllocations = db.commissionAllocations) :
      ∃ b ∈ db.commissionAllocations.rows, ∃ status, a = { b with status } :=
    ⟨a, h ▸ ha, a.status, rfl⟩
  cases op with
  | processPayment verifyPaystack job paymentId commissionId now =>
    refine .inl (hsame ?_)
    exact committed_rule (P := fun db' => db'.commissionAllocations = db.commissionAllocations) rfl
      fun res h => (process_accrues h).2.1
  | requestPayout userId amount payoutId now =>
    cases hrequest : CommissionService.requestPayout userId amount payoutId now db with
    | error err => exact .inl (hsame (by rw [apply, hrequest, committed_error]))
    | ok res =>
      have happly : (requestPayout userId amount payoutId now).apply db = res.2 := by
        rw [apply, hrequest, committed_ok]
      obtain ⟨r, role, hr, -, hcreate⟩ := requestPayout_eq_ok hrequest
      obtain ⟨-, -, payouts, -, hplan⟩ := createPayout_eq_ok hcreate
      rw [happly, (reservePlan_frame hplan).2, List.mem_append] at ha
      rcases ha with ha | ha
      · exact .inl ⟨a, ha, a.status, rfl⟩
      · obtain ⟨e, he, rfl⟩ := List.mem_map.mp ha
        rw [(findRequester_eq_ok hr).1] at he
        exact .inr ⟨userId, amount, payoutId, now, res.1, rfl, by rw [happly, hrequest], rfl,
          owner_of_mem_plan he⟩
  | initiateTransfer payoutId companyUserId now =>
    rcases initiateTransfer_cases db payoutId companyUserId now with
      ⟨e, -, hdb⟩ | ⟨payout, bank, -, -, -, -, hdb⟩
    · exact .inl (hsame (by rw [hdb]))
    · rw [hdb, startTransfer_allocations] at ha
      split at ha
      · exact .inl (Turn.reReserve.foldl_rows db _ ha)
      · exact .inl ⟨a, ha, a.status, rfl⟩
  | webhook event payload now =>
    rcases event.handle_cases payload now db with ⟨-, hdb⟩ | ⟨payout, ledger, -, -, -, hdb⟩
    · exact .inl (hsame (by rw [apply, hdb, committed_ok]; rfl))
    · rw [apply, hdb, committed_ok] at ha
      have hrows := event.turn.foldl_rows (updatePayout db payout.payoutId
        (event.handler.mark payload now) (event.handler.mark_payoutId payload now)) _ ha
      exact .inl hrows
  | adminApprovePayout payoutId adminId now =>
    exact .inl (hsame (aside_apply db (.adminApprovePayout payoutId adminId now) trivial).allocations)
  | companyApprovePayout payoutId userId now =>
    exact .inl (hsame (aside_apply db (.companyApprovePayout payoutId userId now) trivial).allocations)
  | transferJob paystack payoutId =>
    exact .inl (hsame (aside_apply db (.transferJob paystack payoutId) trivial).allocations)
  | transferJobFailed job message now =>
    exact .inl (hsame (aside_apply db (.transferJobFailed job message now) trivial).allocations)

end Operation

/-- A payout is allocated from commissions of its marketer. -/
def Database.Linked (db : Database) : Prop :=
  ∀ a ∈ db.commissionAllocations.rows, ∃ userId amount terms,
    (a.commissionId, userId, amount) ∈ db.commissionTerms ∧
      db.payoutTerms a.payoutId = some (userId, terms)

theorem Operation.linked_apply {db : Database} (h : db.Linked) (op : Operation) :
    (op.apply db).Linked := by
  intro a ha
  rw [op.commissionTerms_apply db]
  rcases op.allocation_apply db ha with
    ⟨b, hb, status, rfl⟩ |
      ⟨userId, amount, payoutId, now, request, -, hrequest, hpayout, c, hc, hid, howner⟩
  · obtain ⟨userId, amount, terms, hcommission, hpayout⟩ := h b hb
    exact ⟨userId, amount, terms, List.mem_append_left _ hcommission,
      op.payoutTerms_apply hpayout⟩
  · obtain ⟨r, role, hr, -, hcreate⟩ := requestPayout_eq_ok hrequest
    obtain ⟨-, rfl, payouts, hpayouts, hplan⟩ := createPayout_eq_ok hcreate
    obtain ⟨⟨cs, as, hdb⟩, -⟩ := reservePlan_frame hplan
    refine ⟨userId, c.amount, (r.companyId, amount), List.mem_append_left _ ?_, ?_⟩
    · exact List.mem_map.mpr ⟨c, hc, by rw [Commission.terms, hid, howner]⟩
    · have hfind := Table.find?_create hpayouts payoutId
      rw [if_pos rfl] at hfind
      rw [hpayout, hdb, ← (findRequester_eq_ok hr).1]
      exact congrArg (Option.map CommissionPayoutRequest.terms) hfind

end InstalFlow
