import InstalFlow.Accounting.Transit
import InstalFlow.PaidPayouts

/-!
# What transfers post

A transfer job posts once Paystack has accepted the transfer, and a webhook
handler that is not skipped posts for its payout. The postings of the companies
to the accounts of one name are read as vectors over the companies.
-/

namespace InstalFlow
open Relational Accounting LedgerService CommissionService

/-- An amount of one company. -/
def share (companyId : Option String) (amount : ℚ) : String → ℚ :=
  fun company => if companyId = some company then amount else 0

theorem share_eq_zero_iff {companyId : Option String} {amount : ℚ} :
    share companyId amount = 0 ↔ companyId = none ∨ amount = 0 := by
  constructor
  · intro h
    cases companyId with
    | none => exact .inl rfl
    | some company => exact .inr (by simpa [share] using congrFun h company)
  · rintro (rfl | rfl) <;> funext company <;> simp [share]

theorem share_change (companyId : Option String) (amount : ℚ) (p : Passage) :
    share companyId (p.change amount) = p.change (share companyId amount) := by
  funext company
  cases p <;> by_cases h : companyId = some company <;> simp [share, Passage.change, h]

namespace Ledger

def companyBalances (l : Ledger) (name : String) : String → ℚ :=
  fun company => l.balance name (some company)

/-- What a transaction adds to the accounts of one name. -/
structure Adds (data : LedgerTransaction) (name : String) (type : AccountType)
    (change : String → ℚ) : Prop where
  typed : ∀ e ∈ data.entries, e.accountName = name → e.accountType = type
  change : share data.companyId (changeOf name type data.entries) = change

theorem companyBalances_record {data : LedgerTransaction} {l l' : Ledger} {name : String}
    {type : AccountType} {change : String → ℚ} (hrecord : recordTransaction data l = .ok l')
    (h : l.Typed name type) (hadds : Adds data name type change) :
    l'.Typed name type ∧ l'.companyBalances name = l.companyBalances name + change := by
  obtain ⟨htyped, hbalance⟩ := balance_recordTransaction_typed hrecord h hadds.typed
  refine ⟨htyped, ?_⟩
  rw [← hadds.change]
  exact funext fun company => hbalance (some company)

end Ledger

theorem post_of_record {data : LedgerTransaction} {db : Database} {l : Ledger}
    (h : recordTransaction data db.ledger = .ok l) : post data db = .ok { db with ledger := l } := by
  rw [post, h]

/-- A posting of one amount adds to an account what it debits it, or takes what it credits. -/
theorem Ledger.adds_pair {data : LedgerTransaction} {amount change : ℚ}
    {debit credit : String × AccountType} {name : String} {type : AccountType}
    (hentries : data.entries =
      [{ accountName := debit.1, accountType := debit.2, debit := amount },
       { accountName := credit.1, accountType := credit.2, credit := amount }])
    (hdebit : debit.1 = name → debit.2 = type) (hcredit : credit.1 = name → credit.2 = type)
    (hchange : (if debit.1 = name then balanceChange type amount 0 else 0) +
      (if credit.1 = name then balanceChange type 0 amount else 0) = change) :
    Adds data name type (share data.companyId change) := by
  constructor
  · intro e he
    rw [hentries] at he
    simp only [List.mem_cons, List.not_mem_nil, or_false] at he
    rcases he with rfl | rfl
    · exact hdebit
    · exact hcredit
  · rw [← hchange, hentries]
    refine congrArg (share data.companyId) ?_
    by_cases hd : debit.1 = name <;> by_cases hc : credit.1 = name <;> simp [changeOf, hd, hc]

namespace TransferWorker

def initPosting (payout : CommissionPayoutRequest) : LedgerTransaction :=
  transferPosting ("TRANSFER_INIT_" ++ payout.payoutId)
    ("Transfer initiated for marketer " ++ payout.userId) payout
    ("COMMISSION_PAYABLE", .liability) ("PAYOUTS_IN_TRANSIT", .asset)

/-- The account linked to the payout is found, and Paystack accepts the transfer to it. -/
def accepted (paystack : Paystack) (payout : CommissionPayoutRequest) (db : Database) : Bool :=
  match payout.marketerBankAccountId.bind db.marketerBankAccounts.find? with
  | none => false
  | some bank =>
    match resolveRecipient paystack bank db with
    | .error _ => false
    | .ok (recipientCode, _) =>
      (paystack.initiateTransfer (payout.amount * 100) recipientCode payout.payoutId
        ("Commission payout — " ++ payout.userId)).isOk

/-- The payout whose transfer a job posts as initiated. -/
def initiated? (paystack : Paystack) (payoutId : String) (db : Database) :
    Option CommissionPayoutRequest :=
  (db.commissionPayoutRequests.find? payoutId).filter fun payout =>
    payout.status = .transferInitiated ∧ payout.transferCode = none ∧ accepted paystack payout db

variable {paystack : Paystack} {payoutId : String} {db : Database}

theorem initPosting_adds_transit (payout : CommissionPayoutRequest) :
    Ledger.Adds (initPosting payout) "PAYOUTS_IN_TRANSIT" .asset
      (share (some payout.companyId) (-payout.amount)) :=
  Ledger.adds_pair rfl (by simp) (by simp) (by simp [balanceChange])

theorem recordTransaction_initPosting (payout : CommissionPayoutRequest) (l : Ledger) :
    ∃ l', recordTransaction (initPosting payout) l = .ok l' := by
  have hbalanced : totalDebits (initPosting payout).entries =
      totalCredits (initPosting payout).entries := by
    simp [initPosting, transferPosting, totalDebits, totalCredits]
  exact ⟨_, if_neg (not_not.mpr hbalanced)⟩

theorem initiated?_eq_some {payout : CommissionPayoutRequest}
    (h : initiated? paystack payoutId db = some payout) :
    db.commissionPayoutRequests.find? payoutId = some payout ∧
      payout.status = .transferInitiated ∧ payout.transferCode = none ∧
      accepted paystack payout db = true := by
  obtain ⟨hfind, hguard⟩ := Option.filter_eq_some_iff.mp h
  have hguard : payout.status = .transferInitiated ∧ payout.transferCode = none ∧
      accepted paystack payout db = true := by simpa using hguard
  exact ⟨hfind, hguard⟩

theorem accepted_eq_true {payout : CommissionPayoutRequest} (h : accepted paystack payout db = true) :
    ∃ bank recipientCode db₁ transferCode,
      payout.marketerBankAccountId.bind db.marketerBankAccounts.find? = some bank ∧
      resolveRecipient paystack bank db = .ok (recipientCode, db₁) ∧
      paystack.initiateTransfer (payout.amount * 100) recipientCode payout.payoutId
        ("Commission payout — " ++ payout.userId) = .ok transferCode := by
  rw [accepted] at h
  split at h
  · cases h
  · rename_i bank hbank
    split at h
    · cases h
    · rename_i recipientCode db₁ hrecipient
      cases htransfer : paystack.initiateTransfer (payout.amount * 100) recipientCode payout.payoutId
          ("Commission payout — " ++ payout.userId) with
      | error message =>
        rw [htransfer] at h
        cases h
      | ok transferCode => exact ⟨bank, recipientCode, db₁, transferCode, hbank, hrecipient, htransfer⟩

theorem recordTransferInit_ledger (payout : CommissionPayoutRequest) (code : Option String)
    (db : Database) : ∃ db', recordTransferInit payout code db = .ok db' ∧
      recordTransaction (initPosting payout) db.ledger = .ok db'.ledger := by
  obtain ⟨ledger, hledger⟩ := recordTransaction_initPosting payout db.ledger
  exact ⟨_, post_of_record (l := ledger) hledger, hledger⟩

theorem process_initiated {payout : CommissionPayoutRequest}
    (h : initiated? paystack payoutId db = some payout) :
    recordTransaction (initPosting payout) db.ledger =
      .ok (process paystack payoutId db).1.ledger := by
  obtain ⟨hpayout, hstatus, hcode, haccepted⟩ := initiated?_eq_some h
  obtain ⟨bank, recipientCode, db₁, transferCode, hbank, hrecipient, htransfer⟩ :=
    accepted_eq_true haccepted
  obtain ⟨banks, rfl⟩ := resolveRecipient_eq_ok hrecipient
  obtain ⟨db', hrecord, hledger⟩ := recordTransferInit_ledger payout transferCode
    { db with marketerBankAccounts := banks }
  simp [process, hpayout, hstatus, hbank, hrecipient, hcode, htransfer, hrecord, hledger]

theorem process_not_initiated (h : initiated? paystack payoutId db = none) :
    (process paystack payoutId db).1.ledger = db.ledger := by
  rw [process]
  split
  · rfl
  · rename_i payout hpayout
    have hguard : ¬ (payout.status = .transferInitiated ∧ payout.transferCode = none ∧
        accepted paystack payout db = true) := by
      simpa [initiated?, hpayout, Option.filter_eq_none_iff] using h
    split
    · rfl
    · rename_i hstatus
      split
      · rfl
      · rename_i bank hbank
        split
        · rfl
        · rename_i recipientCode db₁ hrecipient
          obtain ⟨banks, rfl⟩ := resolveRecipient_eq_ok hrecipient
          split
          · rfl
          · rename_i hcode
            split
            · rfl
            · rename_i transferCode htransfer
              refine absurd ⟨not_not.mp hstatus, by simpa using hcode, ?_⟩ hguard
              simp [accepted, hbank, hrecipient, htransfer, Except.isOk, Except.toBool]

end TransferWorker

/-- What of a payout is fixed by its request. -/
def CommissionPayoutRequest.terms (p : CommissionPayoutRequest) : String × String × ℚ :=
  (p.userId, p.companyId, p.amount)

def Database.payoutTerms (db : Database) (payoutId : String) : Option (String × String × ℚ) :=
  (db.commissionPayoutRequests.find? payoutId).map CommissionPayoutRequest.terms

theorem payoutTerms_updatePayout (db : Database) (id : String)
    {f : CommissionPayoutRequest → CommissionPayoutRequest} (hf : ∀ p, (f p).payoutId = p.payoutId)
    (h : ∀ p, (f p).terms = p.terms) (k : String) :
    (updatePayout db id f hf).payoutTerms k = db.payoutTerms k :=
  Table.find?_update_map db.commissionPayoutRequests id k hf h

theorem payoutTerms_startTransfer (payout : CommissionPayoutRequest) (bank : MarketerBankAccount)
    (companyUserId : String) (now : DateTime) (db : Database) (k : String) :
    (startTransfer payout bank companyUserId now db).payoutTerms k =
      db.payoutTerms k := by
  have hreserve (db : Database) :
      (reReserve payout.payoutId db).payoutTerms k = db.payoutTerms k := by
    obtain ⟨cs, as, hloop⟩ := Turn.reReserve.foldl_frame db
      (withStatus .released (db.allocationsOf payout.payoutId))
    simp only [Turn.body] at hloop
    rw [reReserve, payoutTerms_updatePayout, hloop]
    · rfl
    · exact fun _ => rfl
  have hfailed (db : Database) : (if payout.status = .transferFailed then
      reReserve payout.payoutId db else db).payoutTerms k = db.payoutTerms k := by
    split
    · exact hreserve db
    · rfl
  have hreversed (db : Database) : (if payout.status = .transferReversed then
      updatePayout db payout.payoutId fun p => { p with status := .approved }
      else db).payoutTerms k = db.payoutTerms k := by
    split
    · rw [payoutTerms_updatePayout]
      exact fun _ => rfl
    · rfl
  rw [startTransfer, payoutTerms_updatePayout, hreversed, hfailed]
  exact fun _ => rfl

theorem startTransfer_frame (payout : CommissionPayoutRequest) (bank : MarketerBankAccount)
    (companyUserId : String) (now : DateTime) (db : Database) :
    ∃ commissions commissionAllocations commissionPayoutRequests,
      startTransfer payout bank companyUserId now db =
        { db with commissions, commissionAllocations, commissionPayoutRequests } := by
  obtain ⟨cs, as, hloop⟩ := Turn.reReserve.foldl_frame db
    (withStatus .released (db.allocationsOf payout.payoutId))
  simp only [Turn.body] at hloop
  have hfailed : ∃ commissions commissionAllocations commissionPayoutRequests,
      (if payout.status = .transferFailed then reReserve payout.payoutId db else db) =
        { db with commissions, commissionAllocations, commissionPayoutRequests } := by
    split
    · rw [reReserve, hloop]
      exact ⟨_, _, _, rfl⟩
    · exact ⟨_, _, _, rfl⟩
  obtain ⟨cs, as, ps, hdb⟩ := hfailed
  rw [startTransfer, hdb]
  split
  · exact ⟨_, _, _, rfl⟩
  · exact ⟨_, _, _, rfl⟩

theorem TransferEvent.payoutTerms_written (e : TransferEvent) (payload : TransferPayload)
    (now : DateTime) (p : LoadedPayout) (db : Database) (k : String) :
    (e.written payload now p db).payoutTerms k = db.payoutTerms k := by
  obtain ⟨cs, as, hframe⟩ := e.written_frame payload now p db
  have hmark : ∀ q, (e.handler.mark payload now q).terms = q.terms := by
    intro q
    cases e <;> rfl
  rw [hframe]
  exact payoutTerms_updatePayout db p.payout.payoutId (e.handler.mark_payoutId payload now) hmark k

theorem requestPayout_terms {userId payoutId : String} {amount : ℚ} {now : DateTime}
    {db db' : Database} {request : CommissionPayoutRequest}
    (h : requestPayout userId amount payoutId now db = .ok (request, db')) (k : String) :
    db'.payoutTerms k = db.payoutTerms k ∨ (db.payoutTerms k = none ∧
      ∃ user companyId, db.users.find? user.userId = some user ∧ user.companyId = some companyId ∧
        db'.payoutTerms k = some (user.userId, companyId, amount)) := by
  obtain ⟨r, role, hr, -, hcreate⟩ := requestPayout_eq_ok h
  obtain ⟨-, rfl, payouts, hpayouts, hplan⟩ := createPayout_eq_ok hcreate
  obtain ⟨⟨cs, as, rfl⟩, -⟩ := reservePlan_frame hplan
  obtain ⟨huser, hcompany⟩ := findRequester_company hr
  have hfind := Table.find?_create hpayouts k
  by_cases hk : k = payoutId
  · rw [if_pos hk] at hfind
    refine .inr ⟨?_, r.user, r.companyId, huser, hcompany, ?_⟩
    · subst hk
      rw [Database.payoutTerms, (Table.create_eq_some hpayouts).1]
      rfl
    · exact congrArg (Option.map CommissionPayoutRequest.terms) hfind
  · rw [if_neg hk] at hfind
    exact .inl (congrArg (Option.map CommissionPayoutRequest.terms) hfind)

/-- No operation changes whose payout it is, of which company, or over how much.
A new payout is of the requester and the requester's company. -/
theorem Operation.payoutTerms_apply_cases (db : Database) (op : Operation) (k : String) :
    (op.apply db).payoutTerms k = db.payoutTerms k ∨ (db.payoutTerms k = none ∧
      ∃ user companyId amount, db.users.find? user.userId = some user ∧
        user.companyId = some companyId ∧
        (op.apply db).payoutTerms k = some (user.userId, companyId, amount) ∧
        ∃ userId payoutId now, op = .requestPayout userId amount payoutId now ∧
          (CommissionService.requestPayout userId amount payoutId now db).isOk = true) := by
  have hcommitted {α : Type} {state : α → Database} {r : Except AppError α}
      (hr : ∀ a, r = .ok a → (state a).payoutTerms k = db.payoutTerms k) :
      (committed db state r).payoutTerms k = db.payoutTerms k :=
    committed_rule (P := fun db' => db'.payoutTerms k = db.payoutTerms k) rfl hr
  cases op with
  | processPayment verifyPaystack job paymentId commissionId now =>
    refine .inl (hcommitted fun res hprocess => ?_)
    obtain ⟨i, -, ⟨-, intents, hdb⟩ | ⟨-, hcommits⟩⟩ := PaymentWorker.process_eq_ok hprocess
    · rw [hdb]
      rfl
    · obtain ⟨payments, commissions, ledger, intents, hdb⟩ := hcommits.frame
      rw [hdb]
      rfl
  | requestPayout userId amount payoutId now =>
    rw [apply]
    cases hrequest : CommissionService.requestPayout userId amount payoutId now db with
    | error err => exact .inl rfl
    | ok res =>
      rcases requestPayout_terms hrequest k with
        hsame | ⟨hnone, user, companyId, huser, hcompany, hnew⟩
      · exact .inl hsame
      · refine .inr ⟨hnone, user, companyId, amount, huser, hcompany, hnew, userId, payoutId, now,
          rfl, ?_⟩
        rw [hrequest]
        rfl
  | adminApprovePayout payoutId adminId now =>
    refine .inl (hcommitted fun res happrove => ?_)
    obtain ⟨payout, -, -, rfl⟩ := adminApprovePayout_eq_ok happrove
    rw [id_eq, payoutTerms_updatePayout]
    exact fun _ => rfl
  | companyApprovePayout payoutId companyUserId now =>
    refine .inl (hcommitted fun res happrove => ?_)
    obtain ⟨payout, -, -, rfl⟩ := companyApprovePayout_eq_ok happrove
    rw [id_eq, payoutTerms_updatePayout]
    exact fun _ => rfl
  | initiateTransfer payoutId companyUserId now =>
    rcases initiateTransfer_cases db payoutId companyUserId now with
      ⟨e, -, hdb⟩ | ⟨payout, bank, -, -, -, -, hdb⟩
    · rw [hdb]
      exact .inl rfl
    · rw [hdb]
      exact .inl (payoutTerms_startTransfer payout bank companyUserId now db k)
  | transferJob paystack payoutId =>
    obtain ⟨banks, hdb | ⟨code, ledger, hdb⟩⟩ := TransferWorker.process_cases paystack payoutId db
    · rw [apply, hdb]
      exact .inl rfl
    · rw [apply, hdb]
      exact .inl (payoutTerms_updatePayout db payoutId
        (f := fun p => { p with transferCode := code.or p.transferCode }) (fun _ => rfl)
        (fun _ => rfl) k)
  | transferJobFailed job message now =>
    refine .inl (hcommitted fun res hfailed => ?_)
    rcases TransferWorker.onFailed_eq_ok hfailed with ⟨-, rfl⟩ | ⟨payout, -, -, rfl⟩
    · rfl
    · rw [id_eq, payoutTerms_updatePayout]
      exact fun _ => rfl
  | webhook event payload now =>
    rcases event.handle_cases payload now db with ⟨-, hdb⟩ | ⟨payout, ledger, -, -, -, hdb⟩
    · rw [apply, hdb]
      exact .inl rfl
    · rw [apply, hdb]
      exact .inl (event.payoutTerms_written payload now _ db k)

theorem Operation.payoutTerms_apply {db : Database} {k : String} {terms : String × String × ℚ}
    (h : db.payoutTerms k = some terms) (op : Operation) :
    (op.apply db).payoutTerms k = some terms := by
  rcases op.payoutTerms_apply_cases db k with hsame | ⟨hnone, -⟩
  · exact hsame.trans h
  · exact absurd (hnone.symm.trans h) (by simp)

def acceptingPaystack : Paystack where
  createTransferRecipient _ _ _ := .ok (some "RCP_1")
  initiateTransfer _ _ reference _ := .ok (some ("TRF_" ++ reference))

end InstalFlow
